import Mathlib.Control.Monad.Basic
import Chip8.Proofs.Machine.Built
import Chip8.Proofs.Machine.Map

set_option autoImplicit false
set_option relaxedAutoImplicit false

/-!
# A run as one advance

How often a machine wakes up while it runs by itself cannot be told from what it does: it does what
starting the clocks, advancing once to the time at which the run ends, and stopping do.

## Main definitions

* `Chip8.Machine.batch` — a run without sleeps in between.

## Main results

* `Chip8.Machine.run_eq_batch` — a run is one advance, whatever ends it.
-/

namespace Chip8

namespace Machine

variable {δ : Type} [Devices δ]

/-- Starts the clocks at time zero, advances to `time` at once, and stops. A failure to stop counts
before a failure on the way. -/
def batch (time : Nat) : Action (Machine δ) Unit := fun m =>
  let advanced := advanceTo time (start 0 m).state
  let stopped := stop advanced.state
  ⟨stopped.state, stopped.result.bind fun _ => advanced.result,
    (start 0 m).notices ++ advanced.notices ++ stopped.notices⟩

lemma isRunning_stop (m : Machine δ) : (stop m).state.isRunning = false := by
  rw [isRunning, clocks_stop]
  rfl

section Run

variable {limit : Option Nat} {fuel time : Nat} {m : Machine δ} {o : Outcome (Machine δ) Unit}

/-- A run leaves what one advance leaves, and handles the same ticks. -/
lemma batch_of_run (hm : m.clocks.Ticking) (h : m.run? limit fuel = some (time, o)) :
    o.state = (batch time m).state ∧ o.result = (batch time m).result ∧
      (wakeUps limit fuel m).flatMap Wakeup.events = eventsTo time (start 0 m).state := by
  obtain ⟨body, hbody, hstate, hresult⟩ := run?_eq_some h
  obtain ⟨-, hstate', hresult', hevents⟩ := runFrom?_eq (ticking_start hm 0) hbody
  rw [hstate, hresult, hstate', hresult']
  exact ⟨rfl, rfl, hevents⟩

/-- A run can be watched: with a record it lasts as long and comes to the same outcome. -/
lemma recorded_run (h : m.run? limit fuel = some (time, o)) :
    ∃ r : Outcome (Machine (Recorder δ)) Unit, m.recorded.run? limit fuel = some (time, r) ∧
      r.map (map Recorder.devices) = o := by
  have hmap := run?_map Recorder.isHom limit fuel m.recorded
  rw [map_recorded, h] at hmap
  obtain ⟨⟨time', r⟩, hr, ho⟩ := Option.map_eq_some_iff.mp hmap.symm
  cases ho
  exact ⟨r, hr, rfl⟩

end Run

/-- **A run is one advance.** Whenever a machine that runs by itself is done, after some time and
however it has come to its end, it has become the machine that one advance to that time makes of
it, between starting the clocks and stopping them. The result is the same. The same ticks have been
handled, each by the same machine, so that the same keys have been looked at, and the devices have
been asked the same things in the same order. The clocks are stopped. Neither the longest sleep nor
the number of times of waking up can be told from any of this.

**Proof sketch.** Waking up deals with what is due and does nothing else to the machine. What the
first wake-up does is the beginning of what one advance does, so that by induction all of them
together do what it does. A failure ends both at the same tick. Devices do the same with a record
as without, so a run with a record is a run as well. -/
theorem run_eq_batch {m : Machine δ} (hm : m.Built) {limit : Option Nat} {fuel time : Nat}
    {o : Outcome (Machine δ) Unit} (h : m.run? limit fuel = some (time, o)) :
    o.state = (batch time m).state ∧ o.result = (batch time m).result ∧
      o.state.isRunning = false ∧
      (wakeUps limit fuel m).flatMap Wakeup.events = eventsTo time (start 0 m).state ∧
      ∃ r : Outcome (Machine (Recorder δ)) Unit,
        m.recorded.run? limit fuel = some (time, r) ∧ r.map (map Recorder.devices) = o ∧
        r.state.devices.requests = (batch time m.recorded).state.devices.requests := by
  have hticking := hm.ticking
  obtain ⟨hstate, hresult, hevents⟩ := batch_of_run hticking h
  obtain ⟨r, hr, hro⟩ := recorded_run h
  obtain ⟨hrecord, -, -⟩ := batch_of_run (m := m.recorded) hticking hr
  refine ⟨hstate, hresult, ?_, hevents, r, hr, hro, by rw [hrecord]⟩
  rw [hstate]
  exact isRunning_stop _

/-- A run without a limit that ends at 4, when the picture cannot be shown. -/
theorem run_eq_batch_bench :
    ∃ o r, bench.run? none 5 = some (4, o) ∧ o.result = .error (.device "present failed") ∧
      o.state = (batch 4 bench).state ∧ o.result = (batch 4 bench).result ∧
      bench.recorded.run? none 5 = some (4, r) ∧
      r.state.devices.requests = (batch 4 bench.recorded).state.devices.requests ∧
      (batch 4 bench.recorded).state.devices.requests =
        [.takePressed, .present, .poll, .takePressed, .takePressed, .present] := by
  have htime : (bench.run? none 5).map (·.1) = some 4 := by decide +kernel
  obtain ⟨⟨time, o⟩, ho, rfl⟩ := Option.map_eq_some_iff.mp htime
  obtain ⟨hstate, hresult, -, -, r, hr, -, hrequests⟩ := run_eq_batch built_bench ho
  have hfault : (batch 4 bench).result = .error (.device "present failed") := by decide +kernel
  exact ⟨o, r, ho, hresult.trans hfault, hstate, hresult, hr, hrequests, by decide +kernel⟩

end Machine

end Chip8
