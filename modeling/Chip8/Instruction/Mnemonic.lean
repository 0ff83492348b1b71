set_option autoImplicit false
set_option relaxedAutoImplicit false

/-!
# Mnemonics

The kinds of instruction of the CHIP-8, and one more kind for words that are no instruction.

## Main definitions

* `Chip8.Mnemonic` — the thirty-six kinds.
* `Chip8.Mnemonic.name` — the name of a kind: the assembler's word and the form of its operands.
* `Chip8.Mnemonic.ofName?` — the kind with a given name.
-/

namespace Chip8

/-- The kind of an instruction. In the comments `x` and `y` are register numbers, `kk` is a byte,
`nnn` an address and `n` a count of rows. -/
inductive Mnemonic where
  /-- Turns every pixel off. -/
  | cls
  /-- Returns from a subroutine. -/
  | ret
  /-- Calls a machine code routine of the host at `nnn`; there is none, so nothing happens. -/
  | sys
  /-- Jumps to `nnn`. -/
  | jump
  /-- Calls the subroutine at `nnn`. -/
  | call
  /-- Skips the next instruction if `Vx = kk`. -/
  | skipEqByte
  /-- Skips the next instruction if `Vx ≠ kk`. -/
  | skipNeByte
  /-- Skips the next instruction if `Vx = Vy`. -/
  | skipEq
  /-- Sets `Vx` to `kk`. -/
  | setByte
  /-- Adds `kk` to `Vx`, without a carry. -/
  | addByte
  /-- Sets `Vx` to `Vy`. -/
  | copy
  /-- Sets `Vx` to the bitwise disjunction of `Vx` and `Vy`. -/
  | or
  /-- Sets `Vx` to the bitwise conjunction of `Vx` and `Vy`. -/
  | and
  /-- Sets `Vx` to the bitwise exclusive disjunction of `Vx` and `Vy`. -/
  | xor
  /-- Adds `Vy` to `Vx`; `VF` is the carry. -/
  | add
  /-- Subtracts `Vy` from `Vx`; `VF` tells whether `Vx` was the greater. -/
  | sub
  /-- Halves `Vx`; `VF` is the bit that drops out. -/
  | shiftRight
  /-- Sets `Vx` to `Vy - Vx`; `VF` tells whether `Vy` was the greater. -/
  | subFrom
  /-- Doubles `Vx`; `VF` is the bit that drops out. -/
  | shiftLeft
  /-- Skips the next instruction if `Vx ≠ Vy`. -/
  | skipNe
  /-- Sets the index to `nnn`. -/
  | setIndex
  /-- Jumps to `nnn + V0`. -/
  | jumpBeyond
  /-- Sets `Vx` to a random byte masked with `kk`. -/
  | random
  /-- Draws `n` rows of a sprite at `(Vx, Vy)`; `VF` is the collision. -/
  | draw
  /-- Skips the next instruction if the key `Vx` is down. -/
  | skipKey
  /-- Skips the next instruction if the key `Vx` is up. -/
  | skipNoKey
  /-- Sets `Vx` to the delay timer. -/
  | getDelay
  /-- Waits for a key press and puts the key into `Vx`. -/
  | waitKey
  /-- Sets the delay timer to `Vx`. -/
  | setDelay
  /-- Sets the sound timer to `Vx`. -/
  | setSound
  /-- Adds `Vx` to the index. -/
  | addIndex
  /-- Points the index at the glyph of the digit `Vx`. -/
  | glyph
  /-- Writes the three decimal digits of `Vx` at the index. -/
  | digits
  /-- Writes `V0` to `Vx` at the index. -/
  | store
  /-- Reads `V0` to `Vx` at the index. -/
  | load
  /-- No instruction at all. -/
  | unknown
  deriving DecidableEq, Repr, Inhabited

namespace Mnemonic

/-- The name of a kind of instruction, as messages and listings show it. -/
def name : Mnemonic → String
  | cls => "CLS"
  | ret => "RET"
  | sys => "SYS_ADDR"
  | jump => "JP_ADDR"
  | call => "CALL_ADDR"
  | skipEqByte => "SE_VX_BYTE"
  | skipNeByte => "SNE_VX_BYTE"
  | skipEq => "SE_VX_VY"
  | setByte => "LD_VX_BYTE"
  | addByte => "ADD_VX_BYTE"
  | copy => "LD_VX_VY"
  | or => "OR_VX_VY"
  | and => "AND_VX_VY"
  | xor => "XOR_VX_VY"
  | add => "ADD_VX_VY"
  | sub => "SUB_VX_VY"
  | shiftRight => "SHR_VX_VY"
  | subFrom => "SUBN_VX_VY"
  | shiftLeft => "SHL_VX_VY"
  | skipNe => "SNE_VX_VY"
  | setIndex => "LD_I_ADDR"
  | jumpBeyond => "JP_V0_ADDR"
  | random => "RND_VX_BYTE"
  | draw => "DRW_VX_VY_NIBBLE"
  | skipKey => "SKP_VX"
  | skipNoKey => "SKNP_VX"
  | getDelay => "LD_VX_DT"
  | waitKey => "LD_VX_K"
  | setDelay => "LD_DT_VX"
  | setSound => "LD_ST_VX"
  | addIndex => "ADD_I_VX"
  | glyph => "LD_F_VX"
  | digits => "LD_B_VX"
  | store => "LD_[I]_VX"
  | load => "LD_VX_[I]"
  | unknown => "UNKNOWN"

/-- All kinds of instruction, in the order of the standard decode table. -/
def all : List Mnemonic :=
  [cls, ret, sys, jump, call, skipEqByte, skipNeByte, skipEq, setByte, addByte, copy, or, and, xor,
    add, sub, shiftRight, subFrom, shiftLeft, skipNe, setIndex, jumpBeyond, random, draw, skipKey,
    skipNoKey, getDelay, waitKey, setDelay, setSound, addIndex, glyph, digits, store, load, unknown]

/-- Every kind is in the list of all kinds. -/
theorem mem_all (m : Mnemonic) : m ∈ all := by
  cases m <;> decide

/-- The kind of instruction with the name `s`, if there is one. -/
def ofName? (s : String) : Option Mnemonic :=
  all.find? (·.name == s)

end Mnemonic

end Chip8
