import Mathlib.Order.Bounds.Basic
import Chip8.Proofs.Clock.Pop

set_option autoImplicit false
set_option relaxedAutoImplicit false

/-!
# Clocks in use

The clocks of a machine are started, stopped and asked for ticks, in any order and with times that
may also go back. Whatever has been done to them, they run together or stand together, and which
tick comes next can be told from the times when they are due.

## Main definitions

* `Chip8.Clocks.Call` — what can be done with clocks.
* `Chip8.Clocks.after`, `Chip8.Clocks.taken` — the clocks after several calls, and the ticks that
  have been taken.
* `Chip8.Clocks.Together` — the clocks all run, or none does.
* `Chip8.Clocks.Orderly` — what can be told of clocks that come from a configuration.

## Main results

* `Chip8.Clocks.Together.serve` — a call keeps clocks together.
* `Chip8.Clocks.after_of_stopped` — until they are started, stopped clocks stay as they are.
* `Chip8.Clocks.Together.pairwise_taken` — until they are stopped, clocks give their ticks in order.
* `Chip8.Clocks.orderly_after` — all of this after any calls.
-/

namespace Chip8

/-! ## Starting and stopping -/

namespace Clock

lemma start_of_isRunning {c : Clock} (h : c.isRunning = true) (now : Nat) : c.start now = c := by
  obtain ⟨due, hdue⟩ := Option.isSome_iff_exists.mp h
  simp [start, hdue]

lemma isRunning_start (c : Clock) (now : Nat) : (c.start now).isRunning = true := by
  cases hdue : c.due <;> simp [start, isRunning, hdue]

lemma due_of_isRunning_eq_false {c : Clock} (h : c.isRunning = false) : c.due = none :=
  Option.not_isSome_iff_eq_none.mp (Bool.eq_false_iff.mp h)

lemma stop_of_isRunning_eq_false {c : Clock} (h : c.isRunning = false) : c.stop = c := by
  rw [stop, ← due_of_isRunning_eq_false h]

@[simp]
lemma isRunning_tick (c : Clock) : c.tick.isRunning = c.isRunning :=
  Option.isSome_map

end Clock

namespace Clocks

variable {c : Clocks}

/-- Clocks are known by the clock for each kind of tick. -/
lemma ext_get {c c' : Clocks} (h : ∀ t, c.get t = c'.get t) : c = c' := by
  obtain ⟨delay, sound, cycle⟩ := c
  obtain ⟨delay', sound', cycle'⟩ := c'
  obtain rfl : delay = delay' := h .delay
  obtain rfl : sound = sound' := h .sound
  obtain rfl : cycle = cycle' := h .cycle
  rfl

lemma get_started (c : Clocks) (now : Nat) (t : Tick) :
    (c.started now).get t = (c.get t).start now := by
  cases t <;> rfl

lemma get_stopped (c : Clocks) (t : Tick) : c.stopped.get t = (c.get t).stop := by
  cases t <;> rfl

@[simp]
lemma interval_started (c : Clocks) (now : Nat) (t : Tick) :
    ((c.started now).get t).interval = (c.get t).interval := by
  rw [get_started, Clock.start]
  split <;> rfl

@[simp]
lemma interval_stopped (c : Clocks) (t : Tick) :
    (c.stopped.get t).interval = (c.get t).interval := by
  rw [get_stopped]
  rfl

/-- Clocks run if one of them does. -/
lemma isRunning_iff : c.isRunning = true ↔ ∃ t, (c.get t).isRunning = true := by
  simp only [isRunning, toList, List.any_cons, List.any_nil, Bool.or_false, Bool.or_eq_true]
  constructor
  · rintro (h | h | h)
    · exact ⟨.delay, h⟩
    · exact ⟨.sound, h⟩
    · exact ⟨.cycle, h⟩
  · rintro ⟨t, h⟩
    cases t with
    | delay => exact .inl h
    | sound => exact .inr (.inl h)
    | cycle => exact .inr (.inr h)

lemma due_of_isRunning_eq_false (h : c.isRunning = false) (t : Tick) : (c.get t).due = none := by
  apply Clock.due_of_isRunning_eq_false
  by_contra hrunning
  rw [Bool.not_eq_false] at hrunning
  rw [isRunning_iff.mpr ⟨t, hrunning⟩] at h
  cases h

/-- A stopped clock that is started ticks first after its interval. -/
lemma due_started {t : Tick} (h : (c.get t).due = none) (now : Nat) :
    ((c.started now).get t).due = some (now + (c.get t).interval) := by
  rw [get_started, Clock.start, h]

/-! ## What can be done with clocks -/

/-- What can be done with clocks. -/
inductive Call where
  /-- They are started. -/
  | start (now : Nat)
  /-- They are stopped. -/
  | stop
  /-- They are asked for a tick that is due. -/
  | pop (now : Nat)
  deriving DecidableEq, Repr

/-- The call starts the clocks. -/
def Call.starts : Call → Bool
  | start _ => true
  | stop | pop _ => false

/-- The call stops the clocks. -/
def Call.stops : Call → Bool
  | stop => true
  | start _ | pop _ => false

/-- The tick that a call takes, if any, and the clocks after it. -/
def serve (c : Clocks) : Call → Option (Tick × Nat) × Clocks
  | .start now => (none, (start now c).state)
  | .stop => (none, (stop c).state)
  | .pop now =>
    match c.pop now with
    | some (tick, c') => (some tick, c')
    | none => (none, c)

/-- The clocks after several calls. -/
def after (c : Clocks) (calls : List Call) : Clocks := calls.foldl (fun c a => (c.serve a).2) c

/-- The ticks that several calls take, in order and each with the time when it was due. -/
def taken (c : Clocks) : List Call → List (Tick × Nat)
  | [] => []
  | a :: rest => (c.serve a).1.toList ++ (c.serve a).2.taken rest

lemma after_append (c : Clocks) (calls calls' : List Call) :
    c.after (calls ++ calls') = (c.after calls).after calls' :=
  List.foldl_append

/-- A tick is taken, or nothing happens. -/
lemma serve_pop (c : Clocks) (now : Nat) :
    c.pop now = none ∧ c.serve (.pop now) = (none, c) ∨
      ∃ t due, c.pop now = some ((t, due), c.set t (c.get t).tick) ∧
        c.serve (.pop now) = (some (t, due), c.set t (c.get t).tick) := by
  cases hp : c.pop now with
  | none => exact .inl ⟨rfl, by simp only [serve, hp]⟩
  | some p =>
    obtain ⟨⟨t, due⟩, c'⟩ := p
    obtain ⟨-, -, rfl, -⟩ := pop_eq_some hp
    exact .inr ⟨t, due, rfl, by simp only [serve, hp]⟩

lemma interval_serve (c : Clocks) (a : Call) (t : Tick) :
    ((c.serve a).2.get t).interval = (c.get t).interval := by
  cases a with
  | start now => exact interval_started c now t
  | stop => exact interval_stopped c t
  | pop now =>
    rcases c.serve_pop now with ⟨-, h⟩ | ⟨u, due, -, h⟩ <;> rw [h]
    exact interval_set_tick c u t

/-- No call changes the interval of a clock. -/
lemma interval_after (c : Clocks) (calls : List Call) (t : Tick) :
    ((c.after calls).get t).interval = (c.get t).interval := by
  induction calls generalizing c with
  | nil => rfl
  | cons a rest ih => exact (ih _).trans (interval_serve c a t)

lemma Ticking.after (hc : c.Ticking) (calls : List Call) : (c.after calls).Ticking := by
  intro t
  rw [interval_after]
  exact hc t

/-! ## Running and standing together -/

/-- All clocks run, or none does. -/
def Together (c : Clocks) : Prop :=
  (∀ t, (c.get t).isRunning = true) ∨ ∀ t, (c.get t).isRunning = false

lemma Together.isRunning_get (h : c.Together) (t : Tick) :
    (c.get t).isRunning = c.isRunning := by
  rcases h with h | h
  · rw [h t, isRunning_iff.mpr ⟨t, h t⟩]
  · have hstopped : c.isRunning = false := by
      rw [← Bool.not_eq_true, isRunning_iff]
      rintro ⟨u, hu⟩
      rw [h u] at hu
      cases hu
    rw [h t, hstopped]

lemma isRunning_set_tick (c : Clocks) (t u : Tick) :
    ((c.set t (c.get t).tick).get u).isRunning = (c.get u).isRunning := by
  rw [get_set]
  split
  · subst t
    exact Clock.isRunning_tick _
  · rfl

/-- **A call keeps clocks together.** -/
lemma Together.serve (h : c.Together) (a : Call) : (c.serve a).2.Together := by
  cases a with
  | start now =>
    refine .inl fun t => ?_
    change ((c.started now).get t).isRunning = true
    rw [get_started]
    exact Clock.isRunning_start _ now
  | stop =>
    refine .inr fun t => ?_
    change (c.stopped.get t).isRunning = false
    rw [get_stopped]
    rfl
  | pop now =>
    rcases c.serve_pop now with ⟨-, hserve⟩ | ⟨u, due, -, hserve⟩ <;> rw [hserve]
    · exact h
    · simpa only [Together, isRunning_set_tick] using h

lemma Together.after (h : c.Together) (calls : List Call) : (c.after calls).Together := by
  induction calls generalizing c with
  | nil => exact h
  | cons a rest ih => exact ih (h.serve a)

lemma together_ofConfig (config : Config) : (ofConfig config).Together :=
  .inr fun t => by cases t <;> rfl

lemma started_of_isRunning (h : c.Together) (hrunning : c.isRunning = true) (now : Nat) :
    c.started now = c := by
  refine ext_get fun t => ?_
  rw [get_started]
  exact Clock.start_of_isRunning ((h.isRunning_get t).trans hrunning) now

lemma stopped_of_isRunning_eq_false (h : c.Together) (hstopped : c.isRunning = false) :
    c.stopped = c := by
  refine ext_get fun t => ?_
  rw [get_stopped]
  exact Clock.stop_of_isRunning_eq_false ((h.isRunning_get t).trans hstopped)

/-! ## Stopped clocks -/

lemma pop_of_stopped (h : ∀ t, (c.get t).due = none) (now : Nat) : c.pop now = none := by
  refine pop_eq_none.mpr fun t due hdue => ?_
  rw [h t] at hdue
  cases hdue

/-- Until they are started, stopped clocks stay as they are. -/
lemma after_of_stopped (c : Clocks) {calls : List Call} (hcalls : ∀ a ∈ calls, a.starts = false) :
    c.stopped.after calls = c.stopped := by
  have hdue (t : Tick) : (c.stopped.get t).due = none := by
    rw [get_stopped]
    rfl
  induction calls with
  | nil => rfl
  | cons a rest ih =>
    obtain ⟨ha, hrest⟩ := List.forall_mem_cons.mp hcalls
    have hserve : (c.stopped.serve a).2 = c.stopped := by
      cases a with
      | start now => cases ha
      | stop => rfl
      | pop now => simp only [serve, pop_of_stopped hdue]
    rw [after, List.foldl_cons, hserve]
    exact ih hrest

/-! ## Ticks in order -/

/-- What precedes all that is due elsewhere is due at the earliest time. -/
lemma isLeast_of_first {t : Tick} {due : Nat} (hdue : (c.get t).due = some due)
    (hfirst : ∀ u d, (c.get u).due = some d → u ≠ t → Precedes (t, due) (u, d)) :
    IsLeast {d | ∃ u, (c.get u).due = some d} due := by
  refine ⟨⟨t, hdue⟩, ?_⟩
  rintro d ⟨u, hu⟩
  by_cases hut : u = t
  · subst hut
    exact Nat.le_of_eq (Option.some.inj (hdue.symm.trans hu))
  · exact (hfirst u d hu hut).le

/-- The deadline is the earliest time when a clock is due. -/
lemma deadline_eq_some {due : Nat} :
    c.deadline = some due ↔ IsLeast {d | ∃ t, (c.get t).due = some d} due := by
  constructor
  · intro h
    rw [deadline_eq_next] at h
    obtain ⟨⟨t, _⟩, hnext, rfl⟩ := Option.map_eq_some_iff.mp h
    obtain ⟨hdue, hfirst⟩ := next_eq_some hnext
    exact isLeast_of_first hdue hfirst
  · intro h
    cases hnext : c.next with
    | none =>
      obtain ⟨⟨t, hdue⟩, -⟩ := h
      rw [next_eq_none hnext t] at hdue
      cases hdue
    | some p =>
      obtain ⟨u, d⟩ := p
      obtain ⟨hd, hfirst⟩ := next_eq_some hnext
      obtain rfl : due = d := h.unique (isLeast_of_first hd hfirst)
      rw [deadline_eq_next, hnext]
      rfl

/-- Clocks that run and have no tick that is due any more wait for one that comes later. -/
lemma exists_deadline {now : Nat} (hrunning : c.isRunning = true) (hp : c.pop now = none) :
    ∃ next, c.deadline = some next ∧ now < next ∧
      ∀ t due, (c.get t).due = some due → next ≤ due := by
  cases hdeadline : c.deadline with
  | none =>
    rw [deadline_eq_next] at hdeadline
    have hnext : c.next = none := Option.map_eq_none_iff.mp hdeadline
    obtain ⟨t, ht⟩ := isRunning_iff.mp hrunning
    rw [Clock.isRunning, next_eq_none hnext t] at ht
    cases ht
  | some next =>
    obtain ⟨⟨t, hdue⟩, hleast⟩ := deadline_eq_some.mp hdeadline
    exact ⟨next, rfl, pop_eq_none.mp hp t next hdue, fun u due hu => hleast ⟨u, hu⟩⟩

/-- The tick that is taken is due at the deadline. -/
lemma deadline_of_pop {now due : Nat} {t : Tick} {c' : Clocks}
    (h : c.pop now = some ((t, due), c')) : c.deadline = some due := by
  obtain ⟨hdue, -, -, hfirst⟩ := pop_eq_some h
  exact deadline_eq_some.mpr (isLeast_of_first hdue hfirst)

/-- A tick is taken when there is a deadline and it has come. -/
lemma isSome_pop_iff {now : Nat} :
    (c.pop now).isSome = true ↔ ∃ due, c.deadline = some due ∧ due ≤ now := by
  constructor
  · intro h
    obtain ⟨⟨⟨t, due⟩, c'⟩, hpop⟩ := Option.isSome_iff_exists.mp h
    exact ⟨due, deadline_of_pop hpop, (pop_eq_some hpop).2.1⟩
  · rintro ⟨due, hdeadline, hle⟩
    obtain ⟨⟨t, hdue⟩, -⟩ := deadline_eq_some.mp hdeadline
    by_contra hnone
    have hlater := pop_eq_none.mp (Option.not_isSome_iff_eq_none.mp hnone) t due hdue
    omega

/-- No tick of the clocks is due before a time. -/
def From (start : Nat) (c : Clocks) : Prop := ∀ t due, (c.get t).due = some due → start ≤ due

/-- After a tick has been taken, none is due that should have come earlier. -/
lemma from_pop {now due : Nat} {t : Tick} {c' : Clocks} (h : c.pop now = some ((t, due), c')) :
    c'.From due := by
  obtain ⟨hdue, -, rfl, hfirst⟩ := pop_eq_some h
  intro u d hd
  rw [get_set] at hd
  split at hd
  · rw [Clock.tick_due hdue] at hd
    obtain rfl : due + (c.get t).interval = d := Option.some.inj hd
    exact Nat.le_add_right _ _
  · exact (hfirst u d hd (Ne.symm ‹_›)).le

/-- Until they are stopped, running clocks give no tick that is due before those that are due
now. -/
lemma le_of_mem_taken {start : Nat} (hfrom : c.From start)
    (hrunning : ∀ t, (c.get t).isRunning = true) {calls : List Call}
    (hcalls : ∀ a ∈ calls, a.stops = false) {p : Tick × Nat} (hp : p ∈ c.taken calls) :
    start ≤ p.2 := by
  induction calls generalizing c with
  | nil => cases hp
  | cons a rest ih =>
    obtain ⟨ha, hrest⟩ := List.forall_mem_cons.mp hcalls
    rw [taken] at hp
    cases a with
    | start now =>
      have hsame : c.started now = c := ext_get fun t => by
        rw [get_started]
        exact Clock.start_of_isRunning (hrunning t) now
      change p ∈ (c.started now).taken rest at hp
      rw [hsame] at hp
      exact ih hfrom hrunning hrest hp
    | stop => cases ha
    | pop now =>
      rcases c.serve_pop now with ⟨-, hserve⟩ | ⟨t, due, hpop, hserve⟩ <;> rw [hserve] at hp
      · exact ih hfrom hrunning hrest hp
      · have hdue := hfrom t due (pop_eq_some hpop).1
        rcases List.mem_cons.mp hp with rfl | hp
        · exact hdue
        · refine ih (fun u d hd => ?_) (fun u => ?_) hrest hp
          · exact Nat.le_trans hdue (from_pop hpop u d hd)
          · rw [isRunning_set_tick, hrunning]

/-- **Until they are stopped, clocks give their ticks in order.**

**Proof sketch.** Induction on the calls. Clocks that stand give no tick until they are started. Of
clocks that run, each tick that is taken is due no later than all that are left, and starting them
again changes nothing. -/
lemma Together.pairwise_taken (h : c.Together) {calls : List Call}
    (hcalls : ∀ a ∈ calls, a.stops = false) :
    (c.taken calls).Pairwise fun p q => p.2 ≤ q.2 := by
  induction calls generalizing c with
  | nil => exact .nil
  | cons a rest ih =>
    obtain ⟨ha, hrest⟩ := List.forall_mem_cons.mp hcalls
    have hlater := ih (h.serve a) hrest
    rw [taken]
    cases a with
    | start now => exact hlater
    | stop => cases ha
    | pop now =>
      rcases c.serve_pop now with ⟨-, hserve⟩ | ⟨t, due, hpop, hserve⟩ <;> rw [hserve] at hlater ⊢
      · exact hlater
      · refine List.pairwise_cons.mpr ⟨fun q hq => ?_, hlater⟩
        have hrunning : c.isRunning = true :=
          isRunning_iff.mpr ⟨t, Option.isSome_iff_exists.mpr ⟨due, (pop_eq_some hpop).1⟩⟩
        refine le_of_mem_taken (from_pop hpop) (fun u => ?_) hrest hq
        rw [isRunning_set_tick, h.isRunning_get, hrunning]

/-! ## All of it -/

/-- What can be told of clocks that come from a configuration. -/
structure Orderly (config : Config) (c : Clocks) : Prop where
  /-- Each clock runs if they run at all, and stands otherwise. -/
  together : ∀ t, (c.get t).isRunning = c.isRunning
  /-- Starting clocks that run changes nothing. -/
  start_eq : c.isRunning = true → ∀ now, (start now c).state = c
  /-- Stopping clocks that stand changes nothing. -/
  stop_eq : c.isRunning = false → (stop c).state = c
  /-- Once stopped, the clocks give no tick until they are started. -/
  silent : ∀ calls : List Call, (∀ a ∈ calls, a.starts = false) →
    ∀ now, ((stop c).state.after calls).pop now = none
  /-- When they are started then, each clock ticks first after its interval. -/
  restart : ∀ calls : List Call, (∀ a ∈ calls, a.starts = false) → ∀ now t,
    ((start now ((stop c).state.after calls)).state.get t).due =
      some (now + ((ofConfig config).get t).interval)
  /-- The deadline is the earliest time when a clock is due. -/
  deadline_eq : ∀ due, c.deadline = some due ↔ IsLeast {d | ∃ t, (c.get t).due = some d} due
  /-- A tick is taken when there is a deadline and it has come. -/
  pop_isSome : ∀ now, (c.pop now).isSome = true ↔ ∃ due, c.deadline = some due ∧ due ≤ now
  /-- The tick that is taken is due at the deadline, and goes first among those that are. It moves
  its clock on by an interval, and leaves the others alone. -/
  pop_eq : ∀ now t due c', c.pop now = some ((t, due), c') →
    c.deadline = some due ∧ (c.get t).due = some due ∧
      (∀ u d, (c.get u).due = some d → u ≠ t → Precedes (t, due) (u, d)) ∧
      c'.get t = { c.get t with due := some (due + ((ofConfig config).get t).interval) } ∧
      ∀ u, u ≠ t → c'.get u = c.get u
  /-- Until the clocks are stopped, no tick is due earlier than one that was taken before. -/
  ascending : ∀ calls : List Call, (∀ a ∈ calls, a.stops = false) →
    (c.taken calls).Pairwise fun p q => p.2 ≤ q.2

/-- **Whatever has been done to the clocks of a configuration**, they are orderly: they run or stand
together, a start begins anew and a stop ends everything, and the ticks are taken at their deadlines
and in order. Times may go back, and intervals may be zero.

**Proof sketch.** No call drives the clocks apart or changes an interval. The rest is what taking
one tick does. -/
theorem orderly_after (config : Config) (calls : List Call) :
    Orderly config ((ofConfig config).after calls) := by
  have hinterval := interval_after (ofConfig config) calls
  have h := (together_ofConfig config).after calls
  generalize (ofConfig config).after calls = c at h hinterval
  refine
    { together := h.isRunning_get
      start_eq := started_of_isRunning h
      stop_eq := stopped_of_isRunning_eq_false h
      silent := fun later hlater now => ?_
      restart := fun later hlater now t => ?_
      deadline_eq := fun due => deadline_eq_some
      pop_isSome := fun now => isSome_pop_iff
      pop_eq := fun now t due c' hpop => ?_
      ascending := fun later hlater => h.pairwise_taken hlater }
  · change (c.stopped.after later).pop now = none
    rw [after_of_stopped c hlater]
    exact pop_of_stopped (fun t => by rw [get_stopped]; rfl) now
  · change (((c.stopped.after later).started now).get t).due = _
    rw [after_of_stopped c hlater, due_started (by rw [get_stopped]; rfl), interval_stopped,
      hinterval]
  · obtain ⟨hdue, -, rfl, hfirst⟩ := pop_eq_some hpop
    refine ⟨deadline_of_pop hpop, hdue, hfirst, ?_, fun u hut => ?_⟩
    · rw [get_set, if_pos rfl, Clock.tick, hdue, ← hinterval t]
      rfl
    · rw [get_set, if_neg (Ne.symm hut)]

/-- Clocks that are started a second time, asked for ticks with a time that goes back, and stopped
and started again. -/
example :
    (ofConfig ⟨2, 3, 3, none⟩).taken [.pop 9, .start 0, .pop 9, .start 5, .pop 1, .pop 3, .pop 3,
      .stop, .pop 9, .start 4, .pop 6] = [(.cycle, 2), (.delay, 3), (.sound, 3), (.cycle, 6)] := by
  decide

end Clocks

end Chip8
