import Chip8.Fault
import Chip8.Instruction.Basic
import Chip8.Instruction.Pattern

set_option autoImplicit false
set_option relaxedAutoImplicit false

/-!
# Decode tables

A decode table is a list of patterns. A word is read by the first pattern that accepts it, so of
two patterns that share a word the more special one has to come first; `Table.check` makes sure
of that.

## Main definitions

* `Chip8.Table` — a list of patterns.
* `Chip8.Table.decode` — the reading of a word.
* `Chip8.Table.check` — the first thing that is wrong with a table.
* `Chip8.Table.standard` — the instruction set of the CHIP-8.
-/

namespace Chip8

/-- The greatest number of operands of an instruction. -/
def maxOperands : Nat := 3

/-- The reading of a word by a pattern. No more than `maxOperands` operands are read. -/
def Pattern.read (p : Pattern) (word : UInt16) : Instruction :=
  ⟨p.mnemonic, word, (p.fields.take maxOperands).map (·.extract word)⟩

/-- A decode table: patterns in the order in which they are tried. -/
abbrev Table := List Pattern

namespace Table

/-- The reading of a word: by the first pattern that accepts it, and as an unknown instruction
when none does. -/
def decode (table : Table) (word : UInt16) : Instruction :=
  match table.find? (·.accepts word) with
  | some p => p.read word
  | none => .unknown word

/-- Looks for the first pattern with something wrong: it has too many operands, or it clashes
with a later one. -/
def check : Table → Except Fault Unit
  | [] => .ok ()
  | p :: later =>
    if maxOperands < p.fields.length then
      .error (.invalid (.tooManyOperands p.mnemonic p.fields.length))
    else
      match later.find? (p.clashes ·) with
      | some q => .error (.ambiguous p.mnemonic q.mnemonic)
      | none => check later

/-- The positions `(i, j)` of all pairs of patterns that stand in the relation `r`, ordered by `i`
and then by `j`. -/
def pairs (table : Table) (r : Nat × Pattern → Nat × Pattern → Bool) : List (Nat × Nat) :=
  let numbered := table.zipIdx.map fun (p, i) => (i, p)
  numbered.flatMap fun p => (numbered.filter (r p ·)).map fun q => (p.1, q.1)

/-- The positions of all pairs of overlapping patterns, the earlier one first. -/
def overlaps (table : Table) : List (Nat × Nat) :=
  table.pairs fun (i, p) (j, q) => i < j && p.overlaps q

/-- The positions of all pairs of patterns of which the first is narrower than the second. -/
def narrower (table : Table) : List (Nat × Nat) :=
  table.pairs fun (_, p) (_, q) => p.narrowerThan q

/-- The instruction set of the CHIP-8. The two exact words come before the pattern that accepts
them as well. -/
def standard : Table :=
  [⟨.cls, 0xffff, 0x00e0, []⟩,
    ⟨.ret, 0xffff, 0x00ee, []⟩,
    ⟨.sys, 0xf000, 0x0000, [.address]⟩,
    ⟨.jump, 0xf000, 0x1000, [.address]⟩,
    ⟨.call, 0xf000, 0x2000, [.address]⟩,
    ⟨.skipEqByte, 0xf000, 0x3000, [.x, .byte]⟩,
    ⟨.skipNeByte, 0xf000, 0x4000, [.x, .byte]⟩,
    ⟨.skipEq, 0xf00f, 0x5000, [.x, .y]⟩,
    ⟨.setByte, 0xf000, 0x6000, [.x, .byte]⟩,
    ⟨.addByte, 0xf000, 0x7000, [.x, .byte]⟩,
    ⟨.copy, 0xf00f, 0x8000, [.x, .y]⟩,
    ⟨.or, 0xf00f, 0x8001, [.x, .y]⟩,
    ⟨.and, 0xf00f, 0x8002, [.x, .y]⟩,
    ⟨.xor, 0xf00f, 0x8003, [.x, .y]⟩,
    ⟨.add, 0xf00f, 0x8004, [.x, .y]⟩,
    ⟨.sub, 0xf00f, 0x8005, [.x, .y]⟩,
    ⟨.shiftRight, 0xf00f, 0x8006, [.x, .y]⟩,
    ⟨.subFrom, 0xf00f, 0x8007, [.x, .y]⟩,
    ⟨.shiftLeft, 0xf00f, 0x800e, [.x, .y]⟩,
    ⟨.skipNe, 0xf00f, 0x9000, [.x, .y]⟩,
    ⟨.setIndex, 0xf000, 0xa000, [.address]⟩,
    ⟨.jumpBeyond, 0xf000, 0xb000, [.address]⟩,
    ⟨.random, 0xf000, 0xc000, [.x, .byte]⟩,
    ⟨.draw, 0xf000, 0xd000, [.x, .y, .nibble]⟩,
    ⟨.skipKey, 0xf0ff, 0xe09e, [.x]⟩,
    ⟨.skipNoKey, 0xf0ff, 0xe0a1, [.x]⟩,
    ⟨.getDelay, 0xf0ff, 0xf007, [.x]⟩,
    ⟨.waitKey, 0xf0ff, 0xf00a, [.x]⟩,
    ⟨.setDelay, 0xf0ff, 0xf015, [.x]⟩,
    ⟨.setSound, 0xf0ff, 0xf018, [.x]⟩,
    ⟨.addIndex, 0xf0ff, 0xf01e, [.x]⟩,
    ⟨.glyph, 0xf0ff, 0xf029, [.x]⟩,
    ⟨.digits, 0xf0ff, 0xf033, [.x]⟩,
    ⟨.store, 0xf0ff, 0xf055, [.x]⟩,
    ⟨.load, 0xf0ff, 0xf065, [.x]⟩]

/-- The instruction set can be used as a decode table. -/
theorem check_standard : check standard = .ok () := by
  rfl

end Table

end Chip8
