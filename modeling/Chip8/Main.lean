import Chip8.CommandLine
import Chip8.Display.Terminal
import Chip8.Emulator.Basic
import Chip8.Keypad.Keyboard
import Chip8.Machine.Loop
import Chip8.Random.ChaCha
import Chip8.Scripted

set_option autoImplicit false
set_option relaxedAutoImplicit false

/-!
# The program

Runs a machine in a terminal, in real time. All that is decided here is when to wake the machine:
between two sleeps it is handed the time and what was typed, and afterwards its screen, its tones
and its notices are shown.

## Main definitions

* `Chip8.Player` — a machine on a terminal, with any speaker.
* `Chip8.Player.live` — the sleeps and what is between them.
* `main` — the program.
-/

namespace Chip8

/-- A machine that is shown in a terminal and played on its keyboard. The terminal is emulated, and
its screen copied to the real one. -/
abbrev Player (S : Type) :=
  Machine (Panel (Terminal (Emulator fun _ => false)) Keyboard S ChaCha.Stream)

namespace Player

variable {S : Type}

/-- The events for what was typed. -/
def eventsOf (typed : ByteArray) : List TerminalEvent :=
  typed.toList.filterMap fun b =>
    match b.toNat with
    | 0x03 => some (.char 'c' true)
    | 0x1b => some .escape
    | 0x0a | 0x0d => none
    | n => some (.char (Char.ofNat n) false)

/-- The machine at a time, with what was typed until then. -/
def hand (m : Player S) (now : Nat) (typed : ByteArray) : Player S :=
  { m with
    toBoard := m.toBoard.mapDevices fun d =>
      { d with keypad := { d.keypad.deliver (eventsOf typed) with now := now } } }

/-- Shows the notices that are urgent enough. -/
def report (verbosity : Nat) (notices : List Notice) : IO Unit :=
  for n in notices do
    if n.level.rank ≤ verbosity then IO.eprintln n.line

/-- Shows what has changed between two states of the machine: the screen, and the tones that its
speaker has begun. -/
def display (tones : S → Nat) (before after : Player S) : IO Unit := do
  if before.devices.display.painter.screen != after.devices.display.painter.screen then
    IO.print ("\x1b[H" ++ "\r\n".intercalate after.devices.display.painter.screen.lines ++ "\r\n")
  if tones before.devices.speaker < tones after.devices.speaker then IO.print "\x07"
  (← IO.getStdout).flush

/-- Wakes the machine and sleeps, until its run is over. -/
partial def live [Speaker S] (o : Options) (tones : S → Nat) (typed : IO.Ref ByteArray)
    (epoch : Nat) (m : Player S) : IO (Outcome (Player S) Unit) := do
  let now := (← IO.monoNanosNow) - epoch
  let woken := Machine.wake o.maxCycles now (hand m now (← typed.swap ByteArray.empty))
  report o.verbosity woken.notices
  display tones m woken.state
  match woken.result with
  | .error fault => return ⟨woken.state, .error fault, []⟩
  | .ok none => return ⟨woken.state, .ok (), []⟩
  | .ok (some pause) =>
    IO.sleep (UInt32.ofNat ((pause + Duration.millisecond - 1) / Duration.millisecond))
    live o tones typed epoch woken.state

/-- Collects what is typed until there is nothing more to read. -/
partial def listen (input : IO.FS.Stream) (typed : IO.Ref ByteArray) : IO Unit := do
  let more ← input.read 64
  if !more.isEmpty then
    typed.modify (· ++ more)
    listen input typed

/-- Runs a machine from starting its clocks to stopping them. -/
def play [Speaker S] (o : Options) (tones : S → Nat) (m : Player S) : IO (Except Fault Unit) := do
  let typed ← IO.mkRef ByteArray.empty
  let input ← IO.getStdin
  let _ ← IO.asTask (listen input typed) Task.Priority.dedicated
  IO.print "\x1b[2J"
  let begun := Machine.begin m
  report o.verbosity begun.notices
  let body ← live o tones typed (← IO.monoNanosNow) begun.state
  let ended := Machine.finish body.state
  report o.verbosity ended.notices
  IO.print "\n\n"
  return ended.result.bind fun _ => body.result

/-- The machine that is switched on as the user wishes, with a program in its memory. -/
def switchOn (config : Config) (key : ChaCha.Stream) (speaker : S) (program : ByteArray) :
    Except Fault (Outcome (Player S) Nat) := do
  let frame := Frame.standard
  let terminal ← Terminal.create frame.width frame.height ⟨frame.width + 2, frame.height + 2⟩
  let m ← Machine.create config ⟨terminal, .idle, speaker, key⟩
  return Machine.load (.ofList program.toList) m

/-- Switches a machine on and runs it. -/
def start [Speaker S] (o : Options) (config : Config) (key : ChaCha.Stream) (speaker : S)
    (tones : S → Nat) (program : ByteArray) : IO (Except Fault Unit) := do
  match switchOn config key speaker program with
  | .error fault => return .error fault
  | .ok loaded =>
    report o.verbosity loaded.notices
    match loaded.result with
    | .error fault => return .error fault
    | .ok _ => play o tones loaded.state

end Player

/-- The number of tones that a beeper has begun. -/
def Beeper.tones (b : Beeper Scripted.Console) : Nat :=
  b.console.signals.countP fun s => s.accepted && s.value != 0

/-- Sixty-four bits that are different every time. -/
def freshSeed : IO UInt64 := do
  return (← IO.getRandomBytes 8).toUInt64LE!

/-- Does what the user wishes for. -/
def serve (o : Options) (path : String) : IO (Except Fault Unit) := do
  match o.config with
  | .error fault => return .error fault
  | .ok config =>
    let program ← try IO.FS.readBinFile path catch e =>
      throw (IO.userError s!"couldn't open {path}: {e}")
    let key := ChaCha.Stream.ofSeed (← config.seed.elim freshSeed pure)
    if o.mute then Player.start o config key (⟨⟩ : Silent) (fun _ => 0) program
    else
      let beeper := Beeper.ofConsole (Scripted.Console.ofFailing fun _ => false)
      Player.start o config key beeper Beeper.tones program

end Chip8

/-- Runs the program named on the command line. -/
def main (args : List String) : IO UInt32 := do
  if args.contains "--help" || args.contains "-h" then
    IO.println Chip8.CommandLine.usage
    return 0
  match Chip8.Options.parse args with
  | .error mistake =>
    IO.eprintln s!"error: {mistake.message}"
    IO.eprintln Chip8.CommandLine.usage
    return 2
  | .ok o =>
    try
      match ← Chip8.serve o (o.program.getD "") with
      | .ok () => return 0
      | .error fault =>
        IO.eprintln s!"error: {fault.message}"
        return 1
    catch e =>
      IO.eprintln s!"error: {e}"
      return 1
