import Chip8.Clock.Tick
import Chip8.Instruction.Mnemonic
import Chip8.Text.Hex

set_option autoImplicit false
set_option relaxedAutoImplicit false

/-!
# Faults

All that can go wrong while a machine is set up or runs, by its cause. A word that is no
instruction is not among them: it is carried out as an instruction that does nothing.

## Main definitions

* `Chip8.Problem` — what is wrong with a configuration.
* `Chip8.Fault` — the causes of failure.
* `Chip8.Fault.message` — the text for each of them.
-/

namespace Chip8

/-- What is wrong with a configuration. -/
inductive Problem where
  /-- A clock is to tick zero times a second. -/
  | zeroFrequency (clock : Tick)
  /-- A clock is to tick without any time between its ticks. -/
  | zeroInterval (clock : Tick)
  /-- A display has no pixels. -/
  | emptyDisplay (width height : Nat)
  /-- A pattern has more operands than an instruction can hold. -/
  | tooManyOperands (mnemonic : Mnemonic) (count : Nat)
  /-- Anything else, in words. -/
  | other (text : String)
  deriving DecidableEq, Repr

/-- The text for a problem with a configuration. -/
def Problem.message : Problem → String
  | zeroFrequency clock => s!"{clock.name} frequency must be above zero"
  | zeroInterval clock => s!"{clock.name} interval must be above zero"
  | emptyDisplay width height => s!"display must be at least 1x1, got {width}x{height}"
  | tooManyOperands mnemonic count => s!"{mnemonic.name} has {count} operands"
  | other text => text

/-- The cause of a failure. -/
inductive Fault where
  /-- The `size` bytes from `address` on are not all in memory. -/
  | outOfRange (address size : Nat)
  /-- A subroutine is called at `pc` while the call stack is full. -/
  | stackOverflow (pc : UInt16)
  /-- A subroutine returns at `pc` while the call stack is empty. -/
  | stackUnderflow (pc : UInt16)
  /-- Two patterns of a decode table accept the same word, and the earlier is not the narrower. -/
  | ambiguous (earlier later : Mnemonic)
  /-- The configuration makes no sense. -/
  | invalid (problem : Problem)
  /-- The speaker failed. -/
  | audio (reason : String)
  /-- Another device failed. -/
  | device (reason : String)
  deriving DecidableEq, Repr

/-- The text for a failure. Addresses have at least four hexadecimal digits and program counters
at least three. -/
def Fault.message : Fault → String
  | outOfRange address size => s!"{size} byte(s) at 0x{Hex.padded 4 address} is outside memory"
  | stackOverflow pc => s!"stack overflow calling from 0x{Hex.padded 3 pc.toNat}"
  | stackUnderflow pc => s!"return with empty stack at 0x{Hex.padded 3 pc.toNat}"
  | ambiguous earlier later =>
    s!"decode table entry {earlier.name} shadows or is shadowed by {later.name}"
  | invalid problem => s!"invalid config: {problem.message}"
  | audio reason => s!"audio device failed: {reason}"
  | device reason => s!"i/o error: {reason}"

end Chip8
