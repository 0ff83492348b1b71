import Chip8.Instruction.Basic
import Chip8.Keypad.Key
import Chip8.Text.Duration
import Chip8.Text.Quoted

set_option autoImplicit false
set_option relaxedAutoImplicit false

/-!
# Notices

While it works a machine gives notice of what it does. A notice never changes what happens next:
it is handed out beside the result, and whoever runs the machine shows it or does not.

## Main definitions

* `Chip8.Level` — how urgent a notice is.
* `Chip8.Notice` — the things that a machine gives notice of.
* `Chip8.Notice.level`, `Chip8.Notice.text` — urgency and text of a notice.
-/

namespace Chip8

/-- How urgent a notice is. -/
inductive Level where
  | warn
  | info
  | debug
  | trace
  deriving DecidableEq, Repr, Inhabited

namespace Level

/-- The name of a level. -/
def name : Level → String
  | warn => "WARN"
  | info => "INFO"
  | debug => "DEBUG"
  | trace => "TRACE"

/-- The levels in numbers, the most urgent one first. -/
def rank : Level → Nat
  | warn => 1
  | info => 2
  | debug => 3
  | trace => 4

end Level

/-- The things that a machine gives notice of. -/
inductive Notice where
  /-- An instruction at `pc` is about to be carried out. -/
  | executing (pc : UInt16) (instruction : Instruction)
  /-- The word at `pc` is no instruction. -/
  | unknownWord (word pc : UInt16)
  /-- A program of `size` bytes was put into memory at `address`. -/
  | programLoaded (size : Nat) (address : UInt16)
  /-- The clocks are started at the time `now`. -/
  | clocksStarted (now : Nat)
  /-- The clocks are stopped. -/
  | clocksStopped
  /-- The machine begins to run by itself at `pc`. -/
  | running (pc : UInt16)
  /-- The user wants to leave. -/
  | quitRequested
  /-- The machine no longer runs by itself; it has carried out `cycles` instructions so far. -/
  | stopped (cycles : Nat)
  /-- A character was typed that belongs to no key of the keypad. -/
  | unmappedCharacter (char : Char)
  /-- A key was pressed that stands for no character. -/
  | unknownKey (key : SpecialKey)
  /-- The mouse was used. -/
  | mouse
  deriving DecidableEq, Repr

namespace Notice

/-- The level of a notice. -/
def level : Notice → Level
  | executing .. => .trace
  | unknownWord .. | unmappedCharacter _ | unknownKey _ | mouse => .warn
  | programLoaded .. | clocksStarted _ | clocksStopped | stopped _ => .debug
  | running _ | quitRequested => .info

/-- The text of a notice. -/
def text : Notice → String
  | executing pc instruction => s!"{Hex.padded 3 pc.toNat}: {instruction.text}"
  | unknownWord word pc => s!"unknown opcode {Hex.padded 4 word.toNat} at {Hex.padded 3 pc.toNat}"
  | programLoaded size address =>
    s!"loaded {size} byte program at 0x{Hex.padded 3 address.toNat}"
  | clocksStarted now => s!"starting clocks at {Duration.text now}"
  | clocksStopped => "stopping clocks"
  | running pc => s!"running from 0x{Hex.padded 3 pc.toNat}"
  | quitRequested => "quit requested"
  | stopped cycles => s!"stopped after {cycles} cycles"
  | unmappedCharacter char => s!"can't map {Quoted.char char} to a COSMAC key"
  | unknownKey key => s!"unknown key event {key.name}"
  | mouse => "unknown event Mouse"

/-- The line that a log shows for a notice: its level and its text. -/
def line (n : Notice) : String :=
  n.level.name ++ " " ++ n.text

end Notice

end Chip8
