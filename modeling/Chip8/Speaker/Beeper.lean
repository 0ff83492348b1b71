import Chip8.Speaker.Basic

set_option autoImplicit false
set_option relaxedAutoImplicit false

/-!
# Beepers

A speaker that sounds through the console of the host. How the console makes a tone of a given
pitch, and why it may fail to, is its own affair.

## Main definitions

* `Chip8.Console` — what a beeper asks of a console.
* `Chip8.Signal` — what a console was told, for those that can say.
* `Chip8.Beeper` — a speaker on a console, which it tells to be silent only when it needs to be.
-/

namespace Chip8

/-- A console, as a beeper sees it. -/
class Console (κ : Type) where
  /-- Makes a tone that has a pitch, in oscillations a second, or none if that is zero. If it fails,
  it says why. -/
  sound : (pitch : UInt16) → κ → Except String Unit × κ

/-- Something that a console was told. -/
structure Signal where
  /-- The value that makes the tone; zero for silence. -/
  value : Nat
  /-- The console did as it was told. -/
  accepted : Bool
  deriving DecidableEq, Repr

/-- A speaker on a console. -/
structure Beeper (κ : Type) where
  /-- The console was told to make the tone, and did. -/
  beeping : Bool
  /-- The console. -/
  console : κ

namespace Beeper

variable {κ : Type}

/-- The pitch of the tone. -/
def pitch : UInt16 := 800

/-- The beeper on a console, silent. -/
def ofConsole (console : κ) : Beeper κ := ⟨false, console⟩

variable [Console κ]

/-- Tells the console something. -/
def send (pitch : UInt16) : Action (Beeper κ) Unit := fun b =>
  let (result, console) := Console.sound pitch b.console
  ⟨{ b with console := console }, result.mapError .audio, []⟩

/-- Makes the tone. -/
def beep : Action (Beeper κ) Unit := do
  send pitch
  Action.modify fun b => { b with beeping := true }

/-- Makes no tone. The console is left alone unless the tone is on. -/
def silence : Action (Beeper κ) Unit := do
  let b ← Action.get
  if b.beeping then
    send 0
    Action.modify fun b => { b with beeping := false }

/-- The beeper when it is no longer used: silent, unless that fails. -/
def close (b : Beeper κ) : Beeper κ := (silence b).state

instance : Speaker (Beeper κ) where
  beep := beep
  silence := silence

end Beeper

end Chip8
