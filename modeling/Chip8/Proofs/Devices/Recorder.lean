import Chip8.Panel
import Chip8.Proofs.Commutes

set_option autoImplicit false
set_option relaxedAutoImplicit false

/-!
# Devices that are watched

What the devices of a machine are asked can be written down without their noticing, and without
the machine noticing.

## Main definitions

* `Chip8.Devices.IsHom` — devices that do, through a function, what other devices do.
* `Chip8.Request` — one thing that a device is asked to do.
* `Chip8.Recorder` — devices with a record of what they were asked to do.

## Main results

* `Chip8.Recorder.isHom` — devices do the same with a record as without.
* `Chip8.Recorder.isHom_behind` — a record goes on in the same way whatever is in it.
-/

namespace Chip8

open Chip8.Action (Commutes)

/-- Devices of type `δ` do what those of type `ε` do that `f` makes of them: they give the same
answers, and `f` makes of them afterwards what has become of the others. -/
structure Devices.IsHom {δ ε : Type} [Devices δ] [Devices ε] (f : δ → ε) : Prop where
  clear : ∀ d, Display.clear (f d) = f (Display.clear d)
  draw : ∀ d x y bit,
    Display.draw (f d) x y bit = ((Display.draw d x y bit).1, f (Display.draw d x y bit).2)
  present : Commutes f Display.present Display.present
  isPressed : ∀ d, Keypad.isPressed (f d) = Keypad.isPressed d
  takePressed : ∀ d,
    Keypad.takePressed (f d) = ((Keypad.takePressed d).1, f (Keypad.takePressed d).2)
  poll : Commutes f Keypad.poll Keypad.poll
  quitRequested : ∀ d, Keypad.quitRequested (f d) = Keypad.quitRequested d
  beep : Commutes f Speaker.beep Speaker.beep
  silence : Commutes f Speaker.silence Speaker.silence
  nextByte : ∀ d,
    RandomSource.nextByte (f d) = ((RandomSource.nextByte d).1, f (RandomSource.nextByte d).2)

/-- Devices do what they do themselves. -/
lemma Devices.isHom_id {δ : Type} [Devices δ] : IsHom (id : δ → δ) where
  clear _ := rfl
  draw _ _ _ _ := rfl
  present _ := rfl
  isPressed _ := rfl
  takePressed _ := rfl
  poll _ := rfl
  quitRequested _ := rfl
  beep _ := rfl
  silence _ := rfl
  nextByte _ := rfl

/-- One thing that a device is asked to do. Looking whether a key is down, or whether the user
wants to leave, changes nothing and is not among them; which keys are looked at can be read off the
ticks that are handled, by `Chip8.Event.lookedAt?`. -/
inductive Request where
  /-- Every pixel is to be turned off. -/
  | clear
  /-- A pixel is to be drawn. -/
  | draw (x y : Nat) (bit : Bool)
  /-- The picture is to be shown. -/
  | present
  /-- The newest key press is to be taken. -/
  | takePressed
  /-- The keys are to be looked after. -/
  | poll
  /-- The tone is to be made. -/
  | beep
  /-- No tone is to be made. -/
  | silence
  /-- A random byte is to be drawn. -/
  | nextByte
  deriving DecidableEq, Repr

/-- Devices with a record of what they were asked to do, failures included. -/
structure Recorder (δ : Type) where
  /-- The devices. -/
  devices : δ
  /-- What they were asked to do, the oldest request first. -/
  requests : List Request
  deriving Repr

namespace Recorder

variable {δ α : Type}

/-- The devices with an empty record. -/
def blank (d : δ) : Recorder δ := ⟨d, []⟩

/-- The devices with an older record before their own. -/
def behind (older : List Request) (r : Recorder δ) : Recorder δ :=
  ⟨r.devices, older ++ r.requests⟩

lemma behind_blank (r : Recorder δ) : behind r.requests (blank r.devices) = r := by
  simp [behind, blank]

/-- The devices after one request, which is written down. -/
def after (r : Recorder δ) (request : Request) (d : δ) : Recorder δ :=
  ⟨d, r.requests ++ [request]⟩

/-- Asks the devices to do something and writes the request down. -/
def ask (request : Request) (x : Action δ α) : Action (Recorder δ) α := fun r =>
  let o := x r.devices
  ⟨r.after request o.state, o.result, o.notices⟩

variable [Devices δ]

instance : Devices (Recorder δ) where
  clear r := r.after .clear (Display.clear r.devices)
  draw r x y bit :=
    let (hit, d) := Display.draw r.devices x y bit
    (hit, r.after (.draw x y bit) d)
  present := ask .present Display.present
  isPressed r := Keypad.isPressed r.devices
  takePressed r :=
    let (key, d) := Keypad.takePressed r.devices
    (key, r.after .takePressed d)
  poll := ask .poll Keypad.poll
  quitRequested r := Keypad.quitRequested r.devices
  beep := ask .beep Speaker.beep
  silence := ask .silence Speaker.silence
  nextByte r :=
    let (b, d) := RandomSource.nextByte r.devices
    (b, r.after .nextByte d)

/-- **Devices do the same with a record as without.** -/
theorem isHom : Devices.IsHom (Recorder.devices (δ := δ)) where
  clear _ := rfl
  draw _ _ _ _ := rfl
  present _ := rfl
  isPressed _ := rfl
  takePressed _ := rfl
  poll _ := rfl
  quitRequested _ := rfl
  beep _ := rfl
  silence _ := rfl
  nextByte _ := rfl

/-- What was asked earlier makes no difference to what is done and written down later. -/
theorem isHom_behind (older : List Request) : Devices.IsHom (behind (δ := δ) older) where
  clear r := by simp [Display.clear, after, behind]
  draw r x y bit := by simp [Display.draw, after, behind]
  present r := by simp [Display.present, ask, after, behind, Outcome.map]
  isPressed _ := rfl
  takePressed r := by simp [Keypad.takePressed, after, behind]
  poll r := by simp [Keypad.poll, ask, after, behind, Outcome.map]
  quitRequested _ := rfl
  beep r := by simp [Speaker.beep, ask, after, behind, Outcome.map]
  silence r := by simp [Speaker.silence, ask, after, behind, Outcome.map]
  nextByte r := by simp [RandomSource.nextByte, after, behind]

end Recorder

end Chip8
