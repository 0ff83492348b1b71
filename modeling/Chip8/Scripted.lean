import Chip8.Display.Frame
import Chip8.Keypad.Switches
import Chip8.Speaker.Beeper

set_option autoImplicit false
set_option relaxedAutoImplicit false

/-!
# Scripted devices

Devices that do what a script says and count what they are asked. With them a run of a machine can
be played through, failures included.

## Main definitions

* `Chip8.Scripted.Screen` — a frame whose showing fails at given times.
* `Chip8.Scripted.Keys` — switches that are pressed and released by a script.
* `Chip8.Scripted.Buzzer` — a speaker that remembers what it was told.
* `Chip8.Scripted.Console` — a console that remembers what it was told.
-/

namespace Chip8.Scripted

/-- A frame that counts how often it is shown. -/
structure Screen where
  /-- The picture. -/
  frame : Frame
  /-- The showings that fail, by number from one on. -/
  failing : Nat → Bool
  /-- How often the picture has been shown, failures included. -/
  presents : Nat

namespace Screen

/-- The frame, not shown yet. -/
def ofFrame (frame : Frame) (failing : Nat → Bool) : Screen := ⟨frame, failing, 0⟩

/-- Counts one showing, which may fail. -/
def present : Action Screen Unit := fun s =>
  let n := s.presents + 1
  ⟨{ s with presents := n },
    if s.failing n then .error (.device "present failed") else .ok (), []⟩

instance : Display Screen where
  clear s := { s with frame := s.frame.clear }
  draw s x y bit :=
    let (hit, frame) := s.frame.draw x y bit
    (hit, { s with frame := frame })
  present := present

end Screen

/-- What happens to the keys while they are looked at. -/
structure Move where
  /-- The look at which it happens, by number from one on. -/
  poll : Nat
  /-- The number of a key that goes down. -/
  press : Option UInt8
  /-- The number of a key that goes up, after the other has gone down. -/
  release : Option UInt8
  /-- From now on the user wants to leave. -/
  quit : Bool
  deriving DecidableEq, Repr

/-- Switches that are moved by a script. -/
structure Keys where
  /-- The switches. -/
  switches : Switches
  /-- What happens, and when. -/
  script : List Move
  /-- The looks that fail, by number from one on. Nothing happens then. -/
  failing : Nat → Bool
  /-- How often the keys have been looked at, failures included. -/
  polls : Nat
  /-- The user wants to leave. -/
  quit : Bool

namespace Keys

/-- The switches, not looked at yet. -/
def ofSwitches (switches : Switches) (script : List Move) (failing : Nat → Bool) : Keys :=
  ⟨switches, script, failing, 0, false⟩

/-- The keys after one move. -/
def move (k : Keys) (m : Move) : Keys :=
  let pressed := m.press.elim k.switches k.switches.press
  { k with switches := m.release.elim pressed pressed.release, quit := k.quit || m.quit }

/-- Makes the moves of this look, unless it fails. -/
def poll : Action Keys Unit := fun k =>
  let n := k.polls + 1
  let k := { k with polls := n }
  if k.failing n then ⟨k, .error (.device "poll failed"), []⟩
  else ⟨(k.script.filter (·.poll == n)).foldl move k, .ok (), []⟩

instance : Keypad Keys where
  isPressed k := k.switches.isPressed
  takePressed k :=
    let (key, switches) := k.switches.takePressed
    (key, { k with switches := switches })
  poll := poll
  quitRequested := Keys.quit

end Keys

/-- One thing that a speaker was told. -/
structure Call where
  /-- It was told to beep, and not to be silent. -/
  beep : Bool
  /-- It failed to do so. -/
  failed : Bool
  deriving DecidableEq, Repr

/-- A speaker that remembers what it was told. -/
structure Buzzer where
  /-- The calls that fail, by number from one on. -/
  failing : Nat → Bool
  /-- What the speaker was told, the oldest call first. -/
  calls : List Call

namespace Buzzer

/-- The speaker that has not been told anything. -/
def ofFailing (failing : Nat → Bool) : Buzzer := ⟨failing, []⟩

/-- Remembers one call, which may fail. -/
def call (beep : Bool) : Action Buzzer Unit := fun s =>
  let failed := s.failing (s.calls.length + 1)
  ⟨{ s with calls := s.calls ++ [⟨beep, failed⟩] },
    if failed then .error (.audio "no device") else .ok (), []⟩

instance : Speaker Buzzer where
  beep := call true
  silence := call false

end Buzzer

/-- A console that remembers what it was told. -/
structure Console where
  /-- The calls that fail, by number from one on. They have no effect. -/
  failing : Nat → Bool
  /-- What the console was told, the oldest signal first. -/
  signals : List Signal

namespace Console

/-- The console that has not been told anything. -/
def ofFailing (failing : Nat → Bool) : Console := ⟨failing, []⟩

/-- The clock of the console, in ticks a second. -/
def clockRate : Nat := 1193180

/-- What the clock is divided by for a tone of a given pitch; zero for no tone. -/
def divisor (pitch : UInt16) : Nat := if pitch = 0 then 0 else clockRate / pitch.toNat

instance : Chip8.Console Console where
  sound pitch c :=
    let failed := c.failing (c.signals.length + 1)
    (if failed then .error "EPERM: Operation not permitted" else .ok (),
      { c with signals := c.signals ++ [⟨divisor pitch, !failed⟩] })

end Console

end Chip8.Scripted
