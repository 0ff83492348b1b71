import Mathlib.Control.Monad.Basic
import Mathlib.Data.List.Infix
import Chip8.Proofs.Clock.Drain
import Chip8.Proofs.Machine.Built
import Chip8.Proofs.Machine.Turns

set_option autoImplicit false
set_option relaxedAutoImplicit false

/-!
# Advancing again after a failure

A tick that fails ends the advance, with other ticks still due. Who calls again deals with these,
and in the end with every tick that was due, once each and in order, as if no failure had come
between.

## Main definitions

* `Chip8.Machine.Retried` — a machine is made to advance until it succeeds.
* `Chip8.Machine.Consecutive` — ticks that are handled one after the other.

## Main results

* `Chip8.Machine.Retried.turn` — one tick more, before all others.
* `Chip8.Machine.retried_as_drained` — the calls that it takes and all that they do.
-/

namespace Chip8

namespace Machine

variable {δ : Type} [Devices δ]

/-- A machine is made to advance to `now`, and again after each failure, until it succeeds. It
takes the given number of calls; they fail for the given reasons, handle the given ticks and come
to the given machine. -/
inductive Retried (now : Nat) :
    (calls : Nat) → Machine δ → List Fault → List (Event δ) → Machine δ → Prop where
  /-- The call succeeds. -/
  | done {m m' : Machine δ} {ns : List Notice} : advanceTo now m = ⟨m', .ok (), ns⟩ →
      Retried now 1 m [] (eventsTo now m) m'
  /-- The call fails, and others follow. -/
  | again {calls : Nat} {m m₁ m' : Machine δ} {fault : Fault} {ns : List Notice}
      {faults : List Fault} {es : List (Event δ)} : advanceTo now m = ⟨m₁, .error fault, ns⟩ →
      Retried now calls m₁ faults es m' →
      Retried now (calls + 1) m (fault :: faults) (eventsTo now m ++ es) m'

/-- Each of the ticks is handled by the machine that the tick before it has left, on clocks that
have moved on. -/
def Consecutive : Machine δ → List (Event δ) → Prop
  | _, [] => True
  | m, e :: es => e.machine = m.setClocks e.machine.clocks ∧ Consecutive (m.turn e.tick) es

lemma consecutive_setClocks {m : Machine δ} {c : Clocks} {es : List (Event δ)} :
    Consecutive (m.setClocks c) es ↔ Consecutive m es := by
  induction es generalizing m with
  | nil => rfl
  | cons e es ih => rw [Consecutive, turn_setClocks, ih, setClocks_setClocks, Consecutive]

namespace Retried

variable {now calls due : Nat} {m m₁ m' : Machine δ} {t : Tick} {clocks : Clocks} {fault : Fault}
  {faults : List Fault} {es : List (Event δ)} {ns : List Notice}

lemma of_pop_none (hm : m.clocks.Ticking) (hp : m.clocks.pop now = none) :
    Retried now 1 m [] [] m := by
  obtain ⟨hevents, hend⟩ := (Advances.idle hp).eq hm
  exact hevents ▸ done hend

/-- A tick that succeeds makes the first call one tick longer. -/
lemma of_ok (hm : m.clocks.Ticking) (hp : m.clocks.pop now = some ((t, due), clocks))
    (hh : handle t (m.setClocks clocks) = ⟨m₁, .ok (), ns⟩)
    (h : Retried now calls m₁ faults es m') :
    Retried now calls m faults (⟨t, due, m.setClocks clocks⟩ :: es) m' := by
  have hm₁ : m₁.clocks.Ticking := clocks_of_handle hh ▸ hm.pop hp
  obtain ⟨hevents, hcall⟩ := (Advances.tick hp hh (advances_advanceTo hm₁ now)).eq hm
  -- the first call goes on as the call on the machine behind the tick does, and ends like it
  cases h with
  | done hend =>
    rw [hend] at hcall
    have hfirst := done hcall
    rw [hevents] at hfirst
    exact hfirst
  | again hfail hrest =>
    rw [hfail] at hcall
    have hfirst := again hcall hrest
    rw [hevents] at hfirst
    exact hfirst

/-- A tick that fails is a call of its own. -/
lemma of_error (hm : m.clocks.Ticking) (hp : m.clocks.pop now = some ((t, due), clocks))
    (hh : handle t (m.setClocks clocks) = ⟨m₁, .error fault, ns⟩)
    (h : Retried now calls m₁ faults es m') :
    Retried now (calls + 1) m (fault :: faults) (⟨t, due, m.setClocks clocks⟩ :: es) m' := by
  obtain ⟨hevents, hcall⟩ := (Advances.fault hp hh).eq hm
  have hfirst := again hcall h
  rw [hevents] at hfirst
  exact hfirst

/-- **One tick more, before all others**, whether it succeeds or fails. -/
theorem turn (hm : m.clocks.Ticking) (hp : m.clocks.pop now = some ((t, due), clocks))
    (h : Retried now (faults.length + 1) ((m.turn t).setClocks clocks) faults es m') :
    Retried now (((m.fault? t).toList ++ faults).length + 1) m ((m.fault? t).toList ++ faults)
      (⟨t, due, m.setClocks clocks⟩ :: es) m' := by
  rw [← turn_setClocks] at h
  rw [← fault?_setClocks (c := clocks), fault?]
  rcases hh : handle t (m.setClocks clocks) with ⟨m₁, fault | ⟨⟩, ns⟩ <;>
    rw [Machine.turn, hh] at h
  · exact of_error hm hp hh h
  · exact of_ok hm hp hh h

end Retried

/-- The calls handle the ticks of the drain, one after the other.

**Proof sketch.** Induction along the ticks that are due. -/
lemma exists_retried {m : Machine δ} (hm : m.clocks.Ticking) (now : Nat) :
    let ticks := (m.clocks.popAll now).1.map Prod.fst
    ∃ es, Retried now ((m.faults ticks).length + 1) m (m.faults ticks) es
        ((m.turns ticks).setClocks (m.clocks.popAll now).2) ∧
      es.map (fun e => (e.tick, e.due)) = (m.clocks.popAll now).1 ∧ m.Consecutive es := by
  generalize hc : m.clocks = c at hm
  induction hm using Clocks.Ticking.induct now generalizing m with
  | done c hc' hp =>
    subst hc
    rw [Clocks.popAll_of_pop_none hp]
    exact ⟨[], .of_pop_none hc' hp, rfl, trivial⟩
  | more c t due c' hc' hp ih =>
    subst hc
    obtain ⟨es, hretried, hticks, hconsecutive⟩ :=
      ih (m := (m.turn t).setClocks c') rfl
    rw [faults_setClocks, turns_setClocks, setClocks_setClocks] at hretried
    rw [Clocks.popAll_of_pop_some hc' hp]
    refine ⟨_, hretried.turn hc' hp, ?_, rfl, consecutive_setClocks.mp hconsecutive⟩
    rw [List.map_cons, hticks]

/-- **Calling again after each failure does what is due, once.** Whatever fails and how often, the
machine succeeds in the end: after one call for each tick that fails, each for the reason for which
the tick does, and one call more. The ticks that the calls handle are those that draining the clocks
yields, in the same order, and each is handled by the machine that the one before it has left. So
the machine comes to be what these ticks make of it, with drained clocks. The count of instructions
has risen by those ticks of the cycle clock that succeeded. As long as no instruction sets it, a
timer has fallen by one at each of its ticks, the failing ones included, and has stopped at zero.

**Proof sketch.** Induction along the ticks that are due: a tick that succeeds makes the first call
one tick longer, and one that fails is a call of its own. -/
theorem retried_as_drained {m : Machine δ} (hm : m.Built) (now : Nat) :
    let ticks := (m.clocks.popAll now).1.map Prod.fst
    ∃ es m', Retried now ((m.faults ticks).length + 1) m (m.faults ticks) es m' ∧
      es.map (fun e => (e.tick, e.due)) = (m.clocks.popAll now).1 ∧ m.Consecutive es ∧
      m' = (m.turns ticks).setClocks (m.clocks.popAll now).2 ∧
      m'.cycles = m.cycles + (m.executed ticks).length ∧
      ∀ timer : Timer, ∀ done, done <+: ticks →
        (∀ i ∈ m.executed done, i.mnemonic ≠ timer.setter) →
        (timer.read (m.turns done).cpu).toNat =
          (timer.read m.cpu).toNat - done.count timer.tick := by
  obtain ⟨es, hretried, hticks, hconsecutive⟩ := exists_retried hm.ticking now
  exact ⟨es, _, hretried, hticks, hconsecutive, rfl, cycles_turns m _,
    fun timer done _ hkept => toNat_read_turns timer done hkept⟩

/-- The second picture fails, and an instruction is due behind it. The delay timer stood at five,
and has ticked at both pictures. -/
theorem retried_as_drained_bench :
    let m := (start 0 { bench with cpu := { bench.cpu with delay := 5 } }).state
    ∃ es m', Retried 4 2 m [.device "present failed"] es m' ∧ es.length = 7 ∧ m'.cycles = 4 ∧
      m'.cpu.delay.toNat = 3 := by
  intro m
  have hm : m.Built := .start 0 (.editCpu (fun c => { c with delay := 5 }) built_bench)
  obtain ⟨es, m', hretried, hticks, -, hend, hcycles, htimer⟩ := retried_as_drained hm 4
  have hfaults : m.faults ((m.clocks.popAll 4).1.map Prod.fst) = [.device "present failed"] := by
    decide +kernel
  have hlength : es.length = 7 := by
    rw [← List.length_map (f := fun e => (e.tick, e.due)), hticks]
    decide +kernel
  have hdelay := htimer .delay _ List.prefix_rfl (by decide +kernel)
  rw [hfaults] at hretried
  refine ⟨es, m', hretried, hlength, hcycles.trans (by decide +kernel), ?_⟩
  rw [hend]
  exact hdelay.trans (by decide +kernel)

end Machine

end Chip8
