import Mathlib.Tactic.Lemma
import Chip8.Clock.Clocks

set_option autoImplicit false
set_option relaxedAutoImplicit false

/-!
# Taking one tick

What taking the next tick off the three clocks can do, said once and for all. Everything about
longer runs of the clocks is derived from the two inversion lemmas `Chip8.Clocks.pop_eq_some` and
`Chip8.Clocks.pop_eq_none`, which no later proof looks behind.

## Main definitions

* `Chip8.Precedes` — the order in which ticks are taken.
* `Chip8.Clock.tick` — a clock after its next tick, whenever that comes.
* `Chip8.Clock.TicksAt` — the times at which a clock ticks if it is left to run.
* `Chip8.Clocks.next` — the next tick of several clocks, whenever that comes.
* `Chip8.Clocks.Ticking` — every clock has time between its ticks.

## Main results

* `Chip8.Clocks.pop_eq_next`, `Chip8.Clocks.deadline_eq_next` — the tick that is taken is the next
  one, and that is due at the deadline.
* `Chip8.Clocks.pop_eq_some`, `Chip8.Clocks.pop_eq_none` — when a tick is taken, which, and what
  clocks remain.
* `Chip8.Clocks.dueCount_pop`, `Chip8.Clocks.dueCount_eq_zero` — every tick that is taken is one
  less of those due, and none is due exactly when none is taken.
-/

namespace Chip8

/-! ## The order of ticks -/

/-- The place of a clock among those that tick at the same time. -/
def Tick.rank : Tick → Nat
  | .delay => 0
  | .sound => 1
  | .cycle => 2

/-- A dated tick is taken before another: it is due earlier, or at the same time and by a clock
that goes first. -/
def Precedes (a b : Tick × Nat) : Prop :=
  a.2 < b.2 ∨ a.2 = b.2 ∧ a.1.rank < b.1.rank

lemma Precedes.le {a b : Tick × Nat} (h : Precedes a b) : a.2 ≤ b.2 := by
  rcases h with h | ⟨h, _⟩ <;> omega

lemma Precedes.ne {a b : Tick × Nat} (h : Precedes a b) : a ≠ b := by
  rintro rfl
  rcases h with h | ⟨_, h⟩ <;> omega

/-- What precedes a tick precedes every later one of the same clock. -/
lemma Precedes.later {a : Tick × Nat} {t : Tick} {x y : Nat} (h : Precedes a (t, x))
    (hxy : x ≤ y) : Precedes a (t, y) := by
  rcases h with h | ⟨h, hr⟩
  · exact .inl (Nat.lt_of_lt_of_le h hxy)
  · rcases Nat.eq_or_lt_of_le hxy with rfl | hlt
    · exact .inr ⟨h, hr⟩
    · exact .inl (h ▸ hlt)

/-! ## The earliest of several -/

lemma earliest_eq_none {α : Type} {l : List (α × Nat)} (h : earliest l = none) : l = [] := by
  cases l with
  | nil => rfl
  | cons a rest =>
    simp only [earliest] at h
    split at h
    · cases h
    · split at h <;> cases h

/-- In a list by rank, the earliest is the one that is taken before all others.

**Proof sketch.** Induction on the list. The head is chosen over the earliest of the rest when it
is no later; at the same time it goes first by its rank. -/
lemma earliest_eq_some {l : List (Tick × Nat)} (hl : l.Pairwise fun a b => a.1.rank < b.1.rank)
    {a : Tick × Nat} (h : earliest l = some a) : a ∈ l ∧ ∀ b ∈ l, b ≠ a → Precedes a b := by
  induction l generalizing a with
  | nil => cases h
  | cons head rest ih =>
    obtain ⟨hhead, hrest⟩ := List.pairwise_cons.mp hl
    simp only [earliest] at h
    split at h
    · rename_i hnone
      obtain rfl := earliest_eq_none hnone
      cases h
      simp
    · rename_i best hbest
      obtain ⟨hmem, hfirst⟩ := ih hrest hbest
      split at h
      · -- the head is no later than the earliest of the rest
        rename_i hle
        cases h
        refine ⟨List.mem_cons_self, fun b hb hne => ?_⟩
        rcases List.mem_cons.mp hb with rfl | hb
        · exact absurd rfl hne
        · have hlate : head.2 ≤ b.2 := by
            by_cases hbb : b = best
            · exact hbb ▸ hle
            · exact Nat.le_trans hle (hfirst b hb hbb).le
          rcases Nat.eq_or_lt_of_le hlate with heq | hlt
          · exact .inr ⟨heq, hhead b hb⟩
          · exact .inl hlt
      · -- the earliest of the rest is earlier than the head
        rename_i hlt
        cases h
        refine ⟨List.mem_cons_of_mem _ hmem, fun b hb hne => ?_⟩
        rcases List.mem_cons.mp hb with rfl | hb
        · exact .inl (by omega)
        · exact hfirst b hb hne

/-- The earliest of those that come by a time is the earliest of all, if that does. -/
lemma earliest_filter {α : Type} (l : List (α × Nat)) (now : Nat) :
    earliest (l.filter (·.2 ≤ now)) = (earliest l).filter (·.2 ≤ now) := by
  induction l with
  | nil => rfl
  | cons head rest ih =>
    by_cases hhead : head.2 ≤ now
    · rw [List.filter_cons_of_pos (by simpa using hhead), earliest, earliest, ih]
      cases earliest rest with
      | none => simp [Option.filter_some, hhead]
      | some best =>
        -- a best that comes too late is no match for the head
        by_cases hbest : best.2 ≤ now
        · by_cases hle : head.2 ≤ best.2 <;> simp [Option.filter_some, hhead, hbest, hle]
        · simp [Option.filter_some, hhead, hbest, show head.2 ≤ best.2 by omega]
    · rw [List.filter_cons_of_neg (by simpa using hhead), earliest, ih]
      cases earliest rest with
      | none => simp [Option.filter_some, hhead]
      | some best =>
        by_cases hle : head.2 ≤ best.2
        · simp [Option.filter_some, hhead, hle, show ¬best.2 ≤ now by omega]
        · simp [hle]

/-- The time of the earliest is the least of the times. -/
lemma min?_times {α : Type} (l : List (α × Nat)) :
    (l.map (·.2)).min? = (earliest l).map (·.2) := by
  induction l with
  | nil => rfl
  | cons head rest ih =>
    rw [List.map_cons, List.min?_cons, ih, earliest]
    cases earliest rest with
    | none => rfl
    | some best =>
      by_cases hle : head.2 ≤ best.2
      · simp [hle]
      · simp [hle, Nat.le_of_not_le hle]

namespace Clock

/-! ## One clock -/

/-- The clock after a tick. -/
def tick (c : Clock) : Clock := { c with due := c.due.map (· + c.interval) }

/-- A tick that is due is taken. -/
lemma fire_of_due {c : Clock} {due now : Nat} (h : c.due = some due) (hle : due ≤ now) :
    c.fire now = (true, c.tick) := by
  simp [fire, tick, h, hle]

/-- The clock, if it is left to run, ticks at `time`. -/
def TicksAt (c : Clock) (time : Nat) : Prop :=
  ∃ due, c.due = some due ∧ ∃ k, time = due + k * c.interval

lemma tick_due {c : Clock} {due : Nat} (h : c.due = some due) :
    c.tick.due = some (due + c.interval) := by
  simp [tick, h]

/-- The ticks of a clock are the one that is due and those of the clock after it. -/
lemma ticksAt_iff {c : Clock} {due : Nat} (h : c.due = some due) (time : Nat) :
    c.TicksAt time ↔ time = due ∨ c.tick.TicksAt time := by
  have hint : c.tick.interval = c.interval := rfl
  constructor
  · rintro ⟨d, hd, k, rfl⟩
    obtain rfl : due = d := Option.some.inj (h.symm.trans hd)
    cases k with
    | zero => left; omega
    | succ k => exact .inr ⟨_, tick_due h, k, by rw [hint, Nat.succ_mul]; omega⟩
  · rintro (rfl | ⟨d, hd, k, rfl⟩)
    · exact ⟨_, h, 0, by omega⟩
    · obtain rfl : due + c.interval = d := Option.some.inj ((tick_due h).symm.trans hd)
      exact ⟨_, h, k + 1, by rw [hint, Nat.succ_mul]; omega⟩

/-- No clock ticks before its next tick is due. -/
lemma TicksAt.due_le {c : Clock} {due time : Nat} (h : c.TicksAt time) (hd : c.due = some due) :
    due ≤ time := by
  obtain ⟨d, hd', k, rfl⟩ := h
  obtain rfl : due = d := Option.some.inj (hd.symm.trans hd')
  exact Nat.le_add_right _ _

lemma ticksAt_due {c : Clock} {due : Nat} (h : c.due = some due) : c.TicksAt due :=
  ⟨due, h, 0, by omega⟩

/-- A tick that is taken is one less of those due. -/
lemma dueCount_tick {c : Clock} {due now : Nat} (hint : 0 < c.interval) (hd : c.due = some due)
    (hnow : due ≤ now) : c.dueCount now = c.tick.dueCount now + 1 := by
  have hi : c.tick.interval = c.interval := rfl
  simp only [dueCount, hd, tick_due hd, hi, if_pos hnow]
  split
  · have hsub : now - due = now - (due + c.interval) + c.interval := by omega
    rw [hsub, Nat.add_div_right _ hint]
  · rw [Nat.div_eq_of_lt (by omega)]

lemma dueCount_eq_zero {c : Clock} {now : Nat} :
    c.dueCount now = 0 ↔ ∀ due, c.due = some due → now < due := by
  unfold dueCount
  cases hd : c.due with
  | none => simp
  | some due =>
    by_cases h : due ≤ now
    · simp [h]
    · simp [h]; omega

end Clock

namespace Clocks

/-! ## The next tick -/

/-- The next tick and its time; none when no clock runs. -/
def next (c : Clocks) : Option (Tick × Nat) := earliest c.dues

/-- The next tick is due at the deadline. -/
lemma deadline_eq_next (c : Clocks) : c.deadline = c.next.map (·.2) := by
  have hdues : c.toList.filterMap (·.2.due) = c.dues.map (·.2) := by
    rw [dues, List.map_filterMap]
    congr 1
    funext ⟨t, clock⟩
    cases hdue : clock.due <;> simp [hdue]
  rw [deadline, hdues, min?_times, next]

/-- There is time between any two ticks of a clock. -/
def Ticking (c : Clocks) : Prop := ∀ t, 0 < (c.get t).interval

@[simp]
lemma interval_set_tick (c : Clocks) (t u : Tick) :
    ((c.set t (c.get t).tick).get u).interval = (c.get u).interval := by
  rw [get_set]
  split
  · subst t; rfl
  · rfl

lemma Ticking.set_tick {c : Clocks} (hc : c.Ticking) (t : Tick) :
    (c.set t (c.get t).tick).Ticking := by
  intro u
  rw [interval_set_tick]
  exact hc u

/-- The running clocks come in the order in which ticks of the same time are taken. -/
lemma dues_pairwise (c : Clocks) : c.dues.Pairwise fun a b => a.1.rank < b.1.rank := by
  have h : c.toList.Pairwise fun a b => a.1.rank < b.1.rank := by
    simp [toList, Tick.rank]
  apply List.Pairwise.filterMap _ _ h
  rintro ⟨t, x⟩ ⟨u, y⟩ hlt a ha b hb
  obtain ⟨_, -, rfl⟩ := Option.map_eq_some_iff.mp ha
  obtain ⟨_, -, rfl⟩ := Option.map_eq_some_iff.mp hb
  exact hlt

lemma mem_dues {c : Clocks} {t : Tick} {due : Nat} :
    (t, due) ∈ c.dues ↔ (c.get t).due = some due := by
  simp only [dues, toList, List.mem_filterMap, Option.map_eq_some_iff]
  constructor
  · rintro ⟨⟨u, clock⟩, hmem, d, hd, hud⟩
    cases hud
    cases u <;> simp_all [get]
  · intro h
    exact ⟨(t, c.get t), by cases t <;> simp [get], due, h, rfl⟩

/-- The next tick is due at some clock, and precedes what is due at any other. -/
lemma next_eq_some {c : Clocks} {t : Tick} {due : Nat} (h : c.next = some (t, due)) :
    (c.get t).due = some due ∧
      ∀ u d, (c.get u).due = some d → u ≠ t → Precedes (t, due) (u, d) := by
  obtain ⟨hmem, hfirst⟩ := earliest_eq_some c.dues_pairwise h
  refine ⟨mem_dues.mp hmem, fun u d hu hne => hfirst (u, d) (mem_dues.mpr hu) ?_⟩
  rintro ⟨⟩
  exact hne rfl

/-- There is no next tick only when no clock runs. -/
lemma next_eq_none {c : Clocks} (h : c.next = none) (u : Tick) : (c.get u).due = none := by
  have hnil : c.dues = [] := earliest_eq_none h
  cases hd : (c.get u).due with
  | none => rfl
  | some d =>
    have hmem := mem_dues.mpr hd
    rw [hnil] at hmem
    cases hmem

/-! ## Taking it -/

/-- **The tick that is taken is the next one**, if that is due by `now`. -/
lemma pop_eq_next (c : Clocks) (now : Nat) : c.pop now =
    match c.next with
    | some (t, due) => if due ≤ now then some ((t, due), c.set t (c.get t).tick) else none
    | none => none := by
  rw [pop, earliest_filter, ← next]
  cases hnext : c.next with
  | none => rfl
  | some p =>
    obtain ⟨t, due⟩ := p
    by_cases hle : due ≤ now
    · simp [Option.filter_some, hle, Clock.fire_of_due (next_eq_some hnext).1 hle]
    · simp [Option.filter_some, hle]

/-- **A tick is taken**: it was due by `now`, nothing that is due elsewhere precedes it, and only
its clock has moved on. -/
lemma pop_eq_some {c c' : Clocks} {now due : Nat} {t : Tick}
    (h : c.pop now = some ((t, due), c')) :
    (c.get t).due = some due ∧ due ≤ now ∧ c' = c.set t (c.get t).tick ∧
      ∀ u d, (c.get u).due = some d → u ≠ t → Precedes (t, due) (u, d) := by
  rw [pop_eq_next] at h
  split at h
  · rename_i t' due' hnext
    split at h
    · cases h
      obtain ⟨hdue, hfirst⟩ := next_eq_some hnext
      exact ⟨hdue, ‹_›, rfl, hfirst⟩
    · cases h
  · cases h

/-- **No tick is taken**: every tick that is due at all is due later. -/
lemma pop_eq_none {c : Clocks} {now : Nat} :
    c.pop now = none ↔ ∀ u d, (c.get u).due = some d → now < d := by
  constructor
  · intro h u d hu
    rw [pop_eq_next] at h
    split at h
    · rename_i t due hnext
      obtain ⟨hdue, hfirst⟩ := next_eq_some hnext
      split at h
      · cases h
      · by_cases hut : u = t
        · subst hut
          obtain rfl : due = d := Option.some.inj (hdue.symm.trans hu)
          omega
        · have := (hfirst u d hu hut).le
          simp only at this
          omega
    · rename_i hnext
      rw [next_eq_none hnext u] at hu
      cases hu
  · intro h
    cases hp : c.pop now with
    | none => rfl
    | some p =>
      obtain ⟨⟨t, due⟩, c'⟩ := p
      obtain ⟨hdue, hle, -, -⟩ := pop_eq_some hp
      have := h t due hdue
      omega

/-- A tick that is taken by a time is the one taken by any later time. -/
lemma pop_mono {c : Clocks} {s now : Nat} {p : (Tick × Nat) × Clocks} (h : c.pop s = some p)
    (hle : s ≤ now) : c.pop now = some p := by
  rw [pop_eq_next] at h ⊢
  split at h
  · split at h
    · rw [if_pos (by omega)]; exact h
    · cases h
  · cases h

/-! ## Counting -/

lemma dueCount_set (c : Clocks) (t : Tick) (clock : Clock) (now : Nat) :
    (c.set t clock).dueCount now + (c.get t).dueCount now =
      c.dueCount now + clock.dueCount now := by
  cases t <;> simp only [dueCount, set, get] <;> omega

/-- A tick that is taken is one less of those due. -/
lemma dueCount_pop {c c' : Clocks} {now : Nat} {t : Tick × Nat} (hc : c.Ticking)
    (h : c.pop now = some (t, c')) : c.dueCount now = c'.dueCount now + 1 := by
  obtain ⟨t, due⟩ := t
  obtain ⟨hdue, hle, rfl, -⟩ := pop_eq_some h
  have hone := Clock.dueCount_tick (hc t) hdue hle
  have hset := dueCount_set c t (c.get t).tick now
  omega

/-- No tick is due exactly when none is taken. -/
lemma dueCount_eq_zero {c : Clocks} {now : Nat} : c.dueCount now = 0 ↔ c.pop now = none := by
  rw [pop_eq_none]
  constructor
  · intro h u
    apply Clock.dueCount_eq_zero.mp
    unfold dueCount at h
    cases u <;> simp only [get] <;> omega
  · intro h
    have hd := Clock.dueCount_eq_zero.mpr (h .delay)
    have hs := Clock.dueCount_eq_zero.mpr (h .sound)
    have hcy := Clock.dueCount_eq_zero.mpr (h .cycle)
    simp only [get] at hd hs hcy
    simp only [dueCount, hd, hs, hcy]

/-- The clocks after a tick still have time between their ticks. -/
lemma Ticking.pop {c c' : Clocks} {now : Nat} {t : Tick × Nat} (hc : c.Ticking)
    (h : c.pop now = some (t, c')) : c'.Ticking := by
  obtain ⟨t, due⟩ := t
  obtain ⟨-, -, rfl, -⟩ := pop_eq_some h
  exact hc.set_tick t

end Clocks

end Chip8
