import Chip8.Instruction.Mnemonic

set_option autoImplicit false
set_option relaxedAutoImplicit false

/-!
# Patterns of instruction words

A pattern describes the words of one kind of instruction: which bits are fixed, and where the
operands are.

## Main definitions

* `Chip8.Field` — the place of one operand in a word, and `Field.extract` to read it.
* `Chip8.Pattern` — the fixed bits of a kind of instruction and its operands' fields.
* `Chip8.Pattern.accepts` — a word belongs to a pattern.
* `Chip8.Pattern.overlaps`, `Chip8.Pattern.narrowerThan` — how the words of two patterns relate,
  told from the fixed bits alone.
-/

namespace Chip8

/-- The place of an operand in an instruction word. -/
structure Field where
  /-- The bits of the word that belong to the operand. -/
  mask : UInt16
  /-- How far the operand is shifted up in the word. Shifts are taken modulo the number of bits of a
  word. -/
  shift : UInt8
  deriving DecidableEq, Repr

namespace Field

/-- The operand in a word. -/
def extract (f : Field) (word : UInt16) : UInt16 :=
  (word &&& f.mask) >>> f.shift.toUInt16

/-- The word with an operand put into its place and nothing else. -/
def insert (f : Field) (operand : UInt16) : UInt16 :=
  operand <<< f.shift.toUInt16

/-- An address `nnn`: the lower twelve bits. -/
def address : Field := ⟨0x0fff, 0⟩

/-- A register number `x`: the second nibble. -/
def x : Field := ⟨0x0f00, 8⟩

/-- A register number `y`: the third nibble. -/
def y : Field := ⟨0x00f0, 4⟩

/-- A byte `kk`: the lower eight bits. -/
def byte : Field := ⟨0x00ff, 0⟩

/-- A count `n`: the last nibble. -/
def nibble : Field := ⟨0x000f, 0⟩

end Field

/-- The words of one kind of instruction: those whose bits under `mask` are `code`. -/
structure Pattern where
  /-- The kind of instruction. -/
  mnemonic : Mnemonic
  /-- The bits of a word that are fixed. -/
  mask : UInt16
  /-- The values of the fixed bits. -/
  code : UInt16
  /-- The places of the operands, in the order in which they are written. -/
  fields : List Field
  deriving DecidableEq, Repr

namespace Pattern

/-- The word `word` belongs to the pattern. -/
def accepts (p : Pattern) (word : UInt16) : Bool :=
  word &&& p.mask == p.code

/-- The two patterns agree on every bit that both fix. -/
def overlaps (p q : Pattern) : Bool :=
  (p.code ^^^ q.code) &&& p.mask &&& q.mask == 0

/-- The pattern `p` fixes all that `q` fixes, in the same way, and something besides. -/
def narrowerThan (p q : Pattern) : Bool :=
  p.overlaps q && p.mask &&& q.mask == q.mask && p.mask != q.mask

/-- The pattern `p`, tried before `q`, does not win by being the more special one: the two agree
on the bits that both fix, yet `p` is not narrower. -/
def clashes (p q : Pattern) : Bool :=
  p.overlaps q && !p.narrowerThan q

end Pattern

end Chip8
