import Chip8.Display.Basic
import Chip8.Keypad.Basic
import Chip8.Random.Basic
import Chip8.Speaker.Basic

set_option autoImplicit false
set_option relaxedAutoImplicit false

/-!
# Panels

A machine works with one thing that is display, keypad, speaker and source of random bytes at
once. A panel makes such a thing out of four separate devices.

## Main definitions

* `Chip8.Devices` — all that the machine asks of its devices.
* `Chip8.Panel` — four devices side by side.
-/

namespace Chip8

/-- All that the machine asks of its devices. -/
class Devices (δ : Type) extends Display δ, Keypad δ, Speaker δ, RandomSource δ

/-- A display, a keypad, a speaker and a source of random bytes. -/
structure Panel (D K S R : Type) where
  /-- The display. -/
  display : D
  /-- The keypad. -/
  keypad : K
  /-- The speaker. -/
  speaker : S
  /-- The source of random bytes. -/
  random : R
  deriving Repr

namespace Panel

variable {D K S R α : Type}

/-- Does something to the display. -/
def onDisplay (x : Action D α) : Action (Panel D K S R) α :=
  x.zoom Panel.display fun d p => { p with display := d }

/-- Does something to the keypad. -/
def onKeypad (x : Action K α) : Action (Panel D K S R) α :=
  x.zoom Panel.keypad fun k p => { p with keypad := k }

/-- Does something to the speaker. -/
def onSpeaker (x : Action S α) : Action (Panel D K S R) α :=
  x.zoom Panel.speaker fun s p => { p with speaker := s }

instance [Display D] [Keypad K] [Speaker S] [RandomSource R] : Devices (Panel D K S R) where
  clear p := { p with display := Display.clear p.display }
  draw p x y bit :=
    let (hit, d) := Display.draw p.display x y bit
    (hit, { p with display := d })
  present := onDisplay Display.present
  isPressed p := Keypad.isPressed p.keypad
  takePressed p :=
    let (key, k) := Keypad.takePressed p.keypad
    (key, { p with keypad := k })
  poll := onKeypad Keypad.poll
  quitRequested p := Keypad.quitRequested p.keypad
  beep := onSpeaker Speaker.beep
  silence := onSpeaker Speaker.silence
  nextByte p :=
    let (b, r) := RandomSource.nextByte p.random
    (b, { p with random := r })

end Panel

end Chip8
