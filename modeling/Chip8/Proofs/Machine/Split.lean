import Mathlib.Control.Monad.Basic
import Chip8.Proofs.Machine.Built
import Chip8.Proofs.Machine.Map

set_option autoImplicit false
set_option relaxedAutoImplicit false

/-!
# Advancing in two goes

A machine that advances to one time and then to a later one does what it does when it advances to
the later time at once. A failure on the way to the earlier time is met in the same place on the
way to the later.

## Main definitions

* `Chip8.Machine.requestsTo` — what the devices are asked while a machine advances.

## Main results

* `Chip8.Machine.requestsTo_eq_append`, `Chip8.Machine.requestsTo_eq_of_error` — what the devices
  are asked in two goes.
* `Chip8.Machine.advanceTo_in_two` — the machine, the ticks, the outcome and the devices.
-/

namespace Chip8

namespace Machine

variable {δ : Type}

/-- A machine with a record is the machine that has just begun one, behind what is written down
already. -/
lemma recorded_behind (r : Machine (Recorder δ)) :
    (r.map Recorder.devices).recorded.map (Recorder.behind r.devices.requests) = r :=
  congrArg (fun d => { r with devices := d }) (Recorder.behind_blank r.devices)

variable [Devices δ]

/-- What the devices are asked while the machine advances to `now`. -/
def requestsTo (now : Nat) (m : Machine δ) : List Request :=
  (advanceTo now m.recorded).state.devices.requests

/-- A machine with a record does what it does without. -/
lemma map_advanceTo (now : Nat) (r : Machine (Recorder δ)) :
    advanceTo now (r.map Recorder.devices) = (advanceTo now r).map (map Recorder.devices) :=
  commutes_advanceTo Recorder.isHom now r

/-- A record that is not empty is continued by what the machine asks that begins one. -/
lemma requests_advanceTo (now : Nat) (r : Machine (Recorder δ)) :
    (advanceTo now r).state.devices.requests =
      r.devices.requests ++ requestsTo now (r.map Recorder.devices) := by
  have h := commutes_advanceTo (Recorder.isHom_behind r.devices.requests) now
    (r.map Recorder.devices).recorded
  rw [recorded_behind] at h
  rw [h]
  rfl

section Split

variable {m m₁ : Machine δ} {t₁ t₂ : Nat} {ns : List Notice} {fault : Fault}

/-- The machine with a record comes, where the other comes to `m₁`, to one that is `m₁` with a
record. -/
lemma exists_recorded {r : Except Fault Unit} (h : advanceTo t₁ m = ⟨m₁, r, ns⟩) :
    ∃ r₁ : Machine (Recorder δ),
      advanceTo t₁ m.recorded = ⟨r₁, r, ns⟩ ∧ r₁.map Recorder.devices = m₁ := by
  have hmap := map_advanceTo t₁ m.recorded
  rw [map_recorded, h] at hmap
  rcases hr : advanceTo t₁ m.recorded with ⟨r₁, r', ns'⟩
  rw [hr] at hmap
  cases hmap
  exact ⟨r₁, rfl, rfl⟩

/-- What the devices are asked in two goes is what they are asked in one. -/
lemma requestsTo_eq_append (hm : m.clocks.Ticking) (hle : t₁ ≤ t₂)
    (h : advanceTo t₁ m = ⟨m₁, .ok (), ns⟩) :
    requestsTo t₂ m = requestsTo t₁ m ++ requestsTo t₂ m₁ := by
  obtain ⟨r₁, hr, rfl⟩ := exists_recorded h
  obtain ⟨-, hone⟩ := advanceTo_of_ok (m := m.recorded) hm hle hr
  rw [requestsTo, hone, requestsTo, hr]
  exact requests_advanceTo t₂ r₁

/-- After a failure the devices are asked nothing more. -/
lemma requestsTo_eq_of_error (hm : m.clocks.Ticking) (hle : t₁ ≤ t₂)
    (h : advanceTo t₁ m = ⟨m₁, .error fault, ns⟩) : requestsTo t₂ m = requestsTo t₁ m := by
  obtain ⟨r₁, hr, -⟩ := exists_recorded h
  obtain ⟨-, hone⟩ := advanceTo_of_error (m := m.recorded) hm hle hr
  rw [requestsTo, hone, requestsTo, hr]

end Split

/-- **Advancing in two goes is advancing in one.** If a machine advances to `t₁` without a failure
and from there to a later time `t₂`, it comes to the machine and to the result to which it comes
when it advances to `t₂` at once; the same ticks are handled, each by the same machine, so that the
same keys are looked at, and the devices are asked the same things in the same order. If it fails on
the way to `t₁`, it fails on the way to `t₂` in the same way, and nothing more is done.

**Proof sketch.** Which tick is taken next depends on the clocks alone, and how it is handled
depends on the machine alone: neither on the time to which the machine is to advance. So the ticks
up to `t₁` are the first of those up to `t₂`. -/
theorem advanceTo_in_two {m : Machine δ} (hm : m.Built) {t₁ t₂ : Nat} (hle : t₁ ≤ t₂) :
    (∀ m₁ ns, advanceTo t₁ m = ⟨m₁, .ok (), ns⟩ →
      advanceTo t₂ m =
        ⟨(advanceTo t₂ m₁).state, (advanceTo t₂ m₁).result, ns ++ (advanceTo t₂ m₁).notices⟩ ∧
      eventsTo t₂ m = eventsTo t₁ m ++ eventsTo t₂ m₁ ∧
      requestsTo t₂ m = requestsTo t₁ m ++ requestsTo t₂ m₁) ∧
    (∀ m₁ fault ns, advanceTo t₁ m = ⟨m₁, .error fault, ns⟩ →
      advanceTo t₂ m = ⟨m₁, .error fault, ns⟩ ∧
      eventsTo t₂ m = eventsTo t₁ m ∧
      requestsTo t₂ m = requestsTo t₁ m) := by
  have hticking := hm.ticking
  constructor
  · intro m₁ ns h
    obtain ⟨hevents, hone⟩ := advanceTo_of_ok hticking hle h
    exact ⟨hone, hevents, requestsTo_eq_append hticking hle h⟩
  · intro m₁ fault ns h
    obtain ⟨hevents, hone⟩ := advanceTo_of_error hticking hle h
    exact ⟨hone, hevents, requestsTo_eq_of_error hticking hle h⟩

/-- A machine that waits for a key up to 3, and fails to show its picture at 4. -/
theorem advanceTo_in_two_bench :
    ∃ m₃ ns, advanceTo 3 (start 0 bench).state = ⟨m₃, .ok (), ns⟩ ∧
      requestsTo 3 (start 0 bench).state =
        [.takePressed, .present, .poll, .takePressed, .takePressed] ∧
      requestsTo 9 (start 0 bench).state =
        requestsTo 3 (start 0 bench).state ++ requestsTo 9 m₃ ∧
      (advanceTo 4 (start 0 bench).state).result = .error (.device "present failed") ∧
      advanceTo 9 (start 0 bench).state = advanceTo 4 (start 0 bench).state := by
  have hbuilt : (start 0 bench).state.Built := .start 0 built_bench
  have hok : (advanceTo 3 (start 0 bench).state).result = .ok () := by decide +kernel
  have herror : (advanceTo 4 (start 0 bench).state).result =
      .error (.device "present failed") := by decide +kernel
  rcases h₃ : advanceTo 3 (start 0 bench).state with ⟨m₃, r₃, ns₃⟩
  rcases h₄ : advanceTo 4 (start 0 bench).state with ⟨m₄, r₄, ns₄⟩
  obtain rfl : r₃ = .ok () := by rw [h₃] at hok; exact hok
  obtain rfl : r₄ = .error (.device "present failed") := by rw [h₄] at herror; exact herror
  obtain ⟨-, -, hrequests⟩ :=
    (advanceTo_in_two hbuilt (show 3 ≤ 9 by decide)).1 m₃ ns₃ h₃
  obtain ⟨hfail, -, -⟩ := (advanceTo_in_two hbuilt (show 4 ≤ 9 by decide)).2 m₄ _ ns₄ h₄
  exact ⟨m₃, ns₃, rfl, by decide +kernel, hrequests, rfl, hfail⟩

end Machine

end Chip8
