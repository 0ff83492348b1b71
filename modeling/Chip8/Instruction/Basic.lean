import Chip8.Instruction.Mnemonic
import Chip8.Nibble
import Chip8.Text.Hex

set_option autoImplicit false
set_option relaxedAutoImplicit false

/-!
# Instructions

An instruction word after decoding: its kind and its operands.

## Main definitions

* `Chip8.Instruction` — a decoded word.
* `Chip8.Instruction.text` — the listing of an instruction, such as `d125 DRW_VX_VY_NIBBLE 1 2 5`.
* `Chip8.Instruction.operand`, `Chip8.Instruction.register` — the operands by position.
-/

namespace Chip8

/-- The number of a register, `V0` to `VF`. -/
abbrev Register := Nibble

/-- A decoded instruction word. -/
structure Instruction where
  /-- The kind of instruction. -/
  mnemonic : Mnemonic
  /-- The word as it was read. -/
  word : UInt16
  /-- The operands, in the order in which they are written. -/
  operands : List UInt16
  deriving DecidableEq, Repr

namespace Instruction

/-- A word that is no instruction. -/
def unknown (word : UInt16) : Instruction :=
  ⟨.unknown, word, []⟩

/-- The word in four hexadecimal digits, the name of the kind and the operands in hexadecimal,
with a blank between any two. -/
def text (i : Instruction) : String :=
  " ".intercalate
    (Hex.padded 4 i.word.toNat :: i.mnemonic.name :: i.operands.map (Hex.digits ·.toNat))

/-- The operand at position `n`; one that is not there counts as zero. -/
def operand (i : Instruction) (n : Nat) : UInt16 :=
  (i.operands[n]?).getD 0

/-- The operand at position `n` as a register number: its last four bits. -/
def register (i : Instruction) (n : Nat) : Register :=
  nibble (i.operand n).toNat

end Instruction

end Chip8
