import Chip8.Config

set_option autoImplicit false
set_option relaxedAutoImplicit false

/-!
# The command line

What the user may ask for when the machine is started from a shell.

## Main definitions

* `Chip8.Options` — the wishes of the user.
* `Chip8.Options.parse` — the reading of the words of a command line.
* `Chip8.CommandLine.usage` — a help text.
-/

namespace Chip8

/-- The wishes of the user. -/
structure Options where
  /-- The file with the program; none while it has not been named. -/
  program : Option String
  /-- Instructions a second. -/
  cycleHz : Nat
  /-- Decrements of the delay timer a second. -/
  timerHz : Nat
  /-- Decrements of the sound timer a second. -/
  soundHz : Nat
  /-- The seed of the random bytes. -/
  seed : Option UInt64
  /-- How many instructions to carry out. -/
  maxCycles : Option Nat
  /-- No beeping. -/
  mute : Bool
  /-- Notices up to this rank are shown. -/
  verbosity : Nat
  deriving DecidableEq, Repr

namespace CommandLine

/-- What is wrong with a command line. -/
inductive Mistake where
  /-- No program is named. -/
  | missingProgram
  /-- An option is the last word but needs a value. -/
  | missingValue (option : String)
  /-- The value of an option is no number, or is too large. -/
  | badNumber (option value : String)
  /-- There is no such option, or one program too many. -/
  | unexpected (word : String)
  deriving DecidableEq, Repr

/-- The text for a mistake. -/
def Mistake.message : Mistake → String
  | missingProgram => "no program given"
  | missingValue option => s!"a value is required for '{option}'"
  | badNumber option value => s!"invalid value '{value}' for '{option}'"
  | unexpected word => s!"unexpected argument '{word}' found"

/-- A help text. -/
def usage : String :=
  "\n".intercalate
    ["Run a CHIP-8 program in the terminal",
      "",
      "Usage: chip8 [OPTIONS] <ROM>",
      "",
      "Arguments:",
      "  <ROM>  program to load at 0x200",
      "",
      "Options:",
      s!"      --cycle-hz <N>    instructions per second [default: {Config.standardCycles}]",
      s!"      --timer-hz <N>    delay timer decrements per second [default: {Config.standardTimers}]",
      s!"      --sound-hz <N>    sound timer decrements per second [default: {Config.standardTimers}]",
      "      --seed <N>        fixed seed for RND",
      "      --max-cycles <N>  stop after this many instructions",
      "      --mute            no beeping",
      "  -v, --verbose         log more (-v warn, -vv info, -vvv debug, -vvvv trace)",
      "  -h, --help            show this text"]

/-- The numbers of 32 bits are below this. -/
def bound32 : Nat := 4294967296

/-- The numbers of 64 bits are below this. -/
def bound64 : Nat := 18446744073709551616

/-- A number below `bound`, as the value of an option. -/
def number (bound : Nat) (option value : String) : Except Mistake Nat :=
  match value.toNat? with
  | some n => if n < bound then .ok n else .error (.badNumber option value)
  | none => .error (.badNumber option value)

/-- The wishes with an option and its value added; none if there is no such option. -/
def applyValue (o : Options) (option value : String) : Option (Except Mistake Options) :=
  let with32 (f : Nat → Options) := some ((number bound32 option value).map f)
  let with64 (f : Nat → Options) := some ((number bound64 option value).map f)
  match option with
  | "--cycle-hz" => with32 fun n => { o with cycleHz := n }
  | "--timer-hz" => with32 fun n => { o with timerHz := n }
  | "--sound-hz" => with32 fun n => { o with soundHz := n }
  | "--seed" => with64 fun n => { o with seed := some (UInt64.ofNat n) }
  | "--max-cycles" => with64 fun n => { o with maxCycles := some n }
  | _ => none

/-- The options that take a value. -/
def valued : List String := ["--cycle-hz", "--timer-hz", "--sound-hz", "--seed", "--max-cycles"]

/-- How much more is to be shown, if the word asks for that: `-v`, `-vv` and so on. -/
def verbose? (word : String) : Option Nat :=
  match word.toList with
  | '-' :: 'v' :: rest => if rest.all (· == 'v') then some (rest.length + 1) else none
  | _ => if word == "--verbose" then some 1 else none

/-- Reads the words of a command line, one after the other. -/
def read (o : Options) : List String → Except Mistake Options
  | [] => if o.program.isNone then .error .missingProgram else .ok o
  | word :: rest =>
    if word == "--mute" then read { o with mute := true } rest
    else if valued.contains word then
      match rest with
      | [] => .error (.missingValue word)
      | value :: rest =>
        match applyValue o word value with
        | some (.ok o) => read o rest
        | some (.error mistake) => .error mistake
        | none => .error (.unexpected word)
    else
      match verbose? word with
      | some n => read { o with verbosity := o.verbosity + n } rest
      | none =>
        if word.startsWith "-" || o.program.isSome then .error (.unexpected word)
        else read { o with program := some word } rest

end CommandLine

namespace Options

/-- The wishes of a user who says nothing. -/
def standard : Options :=
  ⟨none, Config.standardCycles, Config.standardTimers, Config.standardTimers, none, none, false, 0⟩

/-- The wishes in the words of a command line. -/
def parse (words : List String) : Except CommandLine.Mistake Options :=
  CommandLine.read standard words

/-- The configuration that the user wishes for. -/
def config (o : Options) : Except Fault Config :=
  (Config.ofFrequencies o.cycleHz o.timerHz o.soundHz).map (·.withSeed o.seed)

end Options

end Chip8
