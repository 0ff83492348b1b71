import Mathlib.Data.List.Basic
import Chip8.Proofs.Devices.Recorder
import Chip8.Proofs.Machine.Tell
import Chip8.Scripted

set_option autoImplicit false
set_option relaxedAutoImplicit false

/-!
# Devices whose speaker is listened to

What the speaker is told, and whether it did so, can be written down without the machine noticing.
A speaker that did all it was asked for can be read off such a list, and so can what it has been
doing since.

## Main definitions

* `Chip8.Listener` — devices with a list of the calls to their speaker.
* `Chip8.Listener.obeyed`, `Chip8.Listener.sounding` — the calls that succeeded, and the last of
  them.
* `Chip8.Listener.Alternates` — a list of calls in which no call is made in vain.

## Main results

* `Chip8.Listener.isHom` — devices do the same whether they are listened to or not.
* `Chip8.Listener.Alternates.getElem?_obeyed` — the calls that succeeded take turns.
-/

namespace Chip8

open Chip8.Scripted (Call)

/-- Devices with a list of the calls to their speaker. -/
structure Listener (δ : Type) where
  /-- The devices. -/
  devices : δ
  /-- The calls to the speaker, the oldest call first. -/
  calls : List Call

namespace Listener

variable {δ α : Type}

/-- The devices whose speaker has not been called yet. -/
def unheard (d : δ) : Listener δ := ⟨d, []⟩

/-- Does something to the devices that the list does not tell. -/
def unseen (x : Action δ α) : Action (Listener δ) α :=
  x.zoom devices fun d l => { l with devices := d }

/-- The entry for a call to the speaker: what it was for, and whether it succeeded. -/
def called (on ok : Bool) : Call := ⟨on, !ok⟩

/-- Calls the speaker, which may fail, and writes the call down. -/
def call (on : Bool) (x : Action δ Unit) : Action (Listener δ) Unit := fun l =>
  let o := x l.devices
  ⟨⟨o.state, l.calls ++ [called on o.result.isOk]⟩, o.result, o.notices⟩

section Devices

variable [Devices δ]

instance : Devices (Listener δ) where
  clear l := { l with devices := Display.clear l.devices }
  draw l x y bit :=
    let (hit, d) := Display.draw l.devices x y bit
    (hit, { l with devices := d })
  present := unseen Display.present
  isPressed l := Keypad.isPressed l.devices
  takePressed l :=
    let (key, d) := Keypad.takePressed l.devices
    (key, { l with devices := d })
  poll := unseen Keypad.poll
  quitRequested l := Keypad.quitRequested l.devices
  beep := call true Speaker.beep
  silence := call false Speaker.silence
  nextByte l :=
    let (b, d) := RandomSource.nextByte l.devices
    (b, { l with devices := d })

/-- **Devices do the same whether they are listened to or not.** -/
theorem isHom : Devices.IsHom (Listener.devices (δ := δ)) where
  clear _ := rfl
  draw _ _ _ _ := rfl
  present _ := rfl
  isPressed _ := rfl
  takePressed _ := rfl
  poll _ := rfl
  quitRequested _ := rfl
  beep _ := rfl
  silence _ := rfl
  nextByte _ := rfl

/-- The list is written by the speaker's calls alone. -/
lemma speakerPart_calls : Devices.SpeakerPart (Listener.calls (δ := δ)) where
  clear _ := rfl
  draw _ _ _ _ := rfl
  present _ := rfl
  takePressed _ := rfl
  poll _ := rfl
  nextByte _ := rfl

/-- Every call to the speaker is written down with its outcome. -/
lemma logs_calls (on : Bool) (l : Listener δ) : Machine.Logs calls called on l := by
  cases on <;> rfl

end Devices

/-! ## Reading the list -/

variable {calls : List Call} {on failed : Bool}

/-- What the calls that succeeded were for, the oldest first: true for the tone, false for
silence. -/
def obeyed (calls : List Call) : List Bool := (calls.filter (!·.failed)).map Call.beep

/-- The last call that succeeded was for the tone. -/
def sounding (calls : List Call) : Bool := (obeyed calls).getLastD false

lemma obeyed_concat_failed (calls : List Call) (on : Bool) :
    obeyed (calls ++ [⟨on, true⟩]) = obeyed calls := by
  simp [obeyed]

lemma obeyed_concat_ok (calls : List Call) (on : Bool) :
    obeyed (calls ++ [⟨on, false⟩]) = obeyed calls ++ [on] := by
  simp [obeyed]

/-- A call changes what the speaker does, unless it fails. -/
lemma sounding_concat (calls : List Call) (on failed : Bool) :
    sounding (calls ++ [⟨on, failed⟩]) = if failed then sounding calls else on := by
  cases failed with
  | true => simp only [sounding, obeyed_concat_failed, if_true]
  | false => simp [sounding, obeyed_concat_ok]

/-- Each call asks for what the speaker does not do at the time. -/
inductive Alternates : List Call → Prop where
  | nil : Alternates []
  | concat {calls : List Call} (on failed : Bool) :
      Alternates calls → sounding calls ≠ on → Alternates (calls ++ [⟨on, failed⟩])

namespace Alternates

/-- The tone is on when the calls that succeeded are odd in number. -/
lemma sounding_eq (h : Alternates calls) : sounding calls = ((obeyed calls).length % 2 == 1) := by
  induction h with
  | nil => rfl
  | concat on failed _ hne ih =>
    rw [sounding_concat]
    cases failed with
    | true => rw [obeyed_concat_failed, if_pos rfl, ih]
    | false =>
      rw [obeyed_concat_ok, List.length_append, List.length_singleton]
      rw [ih] at hne
      grind

/-- **The calls that succeeded take turns**: the first is for the tone, the next for silence, and so
on. -/
theorem getElem?_obeyed (h : Alternates calls) {n : Nat} (hn : (obeyed calls)[n]? = some on) :
    on = (n % 2 == 0) := by
  induction h with
  | nil => cases hn
  | concat next failed hcalls hne ih =>
    cases failed with
    | true =>
      rw [obeyed_concat_failed] at hn
      exact ih hn
    | false =>
      rw [obeyed_concat_ok] at hn
      rcases Nat.lt_trichotomy n (obeyed _).length with hlt | heq | hgt
      · rw [List.getElem?_append_left hlt] at hn
        exact ih hn
      · -- the newest call asks for what the speaker does not do
        subst heq
        rw [List.getElem?_concat_length] at hn
        cases hn
        rw [hcalls.sounding_eq] at hne
        rcases Nat.mod_two_eq_zero_or_one (obeyed _).length with hpar | hpar <;>
          rw [hpar] at hne ⊢ <;> revert hne <;> cases on <;> decide
      · rw [List.getElem?_eq_none] at hn
        · cases hn
        · rw [List.length_append, List.length_singleton]
          omega

/-- After a call that failed the speaker does what it was asked not to do. -/
lemma sounding_of_failed (h : Alternates (calls ++ [⟨on, true⟩])) :
    sounding (calls ++ [⟨on, true⟩]) = !on := by
  generalize hc : calls ++ [(⟨on, true⟩ : Call)] = calls' at h
  cases h with
  | nil => simp at hc
  | concat next failed hcalls hne =>
    obtain ⟨rfl, heq⟩ := List.append_inj' hc rfl
    cases heq
    rw [sounding_concat, if_pos rfl]
    exact Bool.eq_not.mpr hne

end Alternates

end Listener

end Chip8
