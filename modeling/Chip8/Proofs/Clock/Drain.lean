import Mathlib.Data.Set.Basic
import Mathlib.Order.Bounds.Defs
import Chip8.Proofs.Clock.Pop

set_option autoImplicit false
set_option relaxedAutoImplicit false

/-!
# Taking every tick that is due

The ticks of three clocks are three arithmetic progressions. Taking ticks until none is due merges
the progressions: each tick comes once, in order of time, and each clock is left at its first tick
after the present. How late the ticks are taken, and in how many instalments, makes no difference.

## Main definitions

* `Chip8.Clocks.popAll` — the ticks that are due, all of them.
* `Chip8.Clocks.instalments` — the ticks that are due at several times, one time after the other.

## Main results

* `Chip8.Clocks.Ticking.induct` — the induction along the ticks that are due.
* `Chip8.Clocks.popAll_of_le` — taking ticks up to an earlier time first changes nothing.
* `Chip8.Clocks.drain_progressions` — which ticks are taken, in which order, and what is left.
-/

namespace Chip8

namespace Clocks

/-! ## The loop -/

/-- All ticks that are due by `now`, and the clocks after them. -/
def popAll (c : Clocks) (now : Nat) : List (Tick × Nat) × Clocks :=
  c.drain (c.dueCount now) now

/-- The ticks taken at several times, one time after the other, and the clocks after them. -/
def instalments (c : Clocks) : List Nat → List (Tick × Nat) × Clocks
  | [] => ([], c)
  | now :: later =>
    let first := c.popAll now
    let rest := first.2.instalments later
    (first.1 ++ rest.1, rest.2)

/-- **Induction along the ticks that are due**: what holds of clocks with no tick due, and of
clocks before a tick whenever it holds of them after it, holds of all clocks.

**Proof sketch.** Induction on the number of ticks that are due, which every tick lowers by
one. -/
theorem Ticking.induct (now : Nat) {motive : (c : Clocks) → c.Ticking → Prop}
    (done : ∀ (c : Clocks) (hc : c.Ticking), c.pop now = none → motive c hc)
    (more : ∀ (c : Clocks) (t : Tick) (due : Nat) (c' : Clocks) (hc : c.Ticking)
      (hp : c.pop now = some ((t, due), c')), motive c' (hc.pop hp) → motive c hc)
    {c : Clocks} (hc : c.Ticking) : motive c hc := by
  induction hn : c.dueCount now generalizing c with
  | zero => exact done c hc (dueCount_eq_zero.mp hn)
  | succ n ih =>
    cases hp : c.pop now with
    | none => exact done c hc hp
    | some p =>
      obtain ⟨⟨t, due⟩, c'⟩ := p
      have hcount := dueCount_pop hc hp
      exact more c t due c' hc hp (ih (hc.pop hp) (by omega))

lemma drain_of_pop_none {c : Clocks} {now : Nat} (h : c.pop now = none) (limit : Nat) :
    c.drain limit now = ([], c) := by
  cases limit with
  | zero => rfl
  | succ limit => simp only [drain, h]

lemma popAll_of_pop_none {c : Clocks} {now : Nat} (h : c.pop now = none) :
    c.popAll now = ([], c) :=
  drain_of_pop_none h _

/-- Taking all ticks is taking the first and then the others. -/
lemma popAll_of_pop_some {c c' : Clocks} {now : Nat} {t : Tick × Nat} (hc : c.Ticking)
    (h : c.pop now = some (t, c')) :
    c.popAll now = (t :: (c'.popAll now).1, (c'.popAll now).2) := by
  rw [popAll, dueCount_pop hc h]
  simp only [drain, h]
  rfl

/-- The number of ticks that are due is limit enough. -/
lemma drain_of_dueCount_le {c : Clocks} {now limit : Nat} (hc : c.Ticking)
    (h : c.dueCount now ≤ limit) : c.drain limit now = c.popAll now := by
  induction limit generalizing c with
  | zero =>
    have hp : c.pop now = none := dueCount_eq_zero.mp (by omega)
    rw [popAll_of_pop_none hp]; rfl
  | succ limit ih =>
    cases hp : c.pop now with
    | none => rw [drain_of_pop_none hp, popAll_of_pop_none hp]
    | some p =>
      obtain ⟨t, c'⟩ := p
      have hcount := dueCount_pop hc hp
      rw [popAll_of_pop_some hc hp, ← ih (hc.pop hp) (by omega)]
      simp only [drain, hp]

lemma length_popAll {c : Clocks} (hc : c.Ticking) (now : Nat) :
    (c.popAll now).1.length = c.dueCount now := by
  induction hc using Ticking.induct now with
  | done c hc hp => rw [popAll_of_pop_none hp, dueCount_eq_zero.mpr hp]; rfl
  | more c t due c' hc hp ih => rw [popAll_of_pop_some hc hp, dueCount_pop hc hp, ← ih]; rfl

lemma pop_popAll {c : Clocks} (hc : c.Ticking) (now : Nat) : (c.popAll now).2.pop now = none := by
  induction hc using Ticking.induct now with
  | done c hc hp => rw [popAll_of_pop_none hp]; exact hp
  | more c t due c' hc hp ih => rw [popAll_of_pop_some hc hp]; exact ih

lemma Ticking.popAll {c : Clocks} (hc : c.Ticking) (now : Nat) : (c.popAll now).2.Ticking := by
  induction hc using Ticking.induct now with
  | done c hc hp => rw [popAll_of_pop_none hp]; exact hc
  | more c t due c' hc hp ih => rw [popAll_of_pop_some hc hp]; exact ih

/-! ## The progressions -/

/-- The ticks still to come are the one that is taken and those of the clocks after it. -/
lemma ticksAt_pop_iff {c c' : Clocks} {now due : Nat} {t : Tick}
    (h : c.pop now = some ((t, due), c')) (u : Tick) (x : Nat) :
    (c.get u).TicksAt x ↔ u = t ∧ x = due ∨ (c'.get u).TicksAt x := by
  obtain ⟨hdue, -, rfl, -⟩ := pop_eq_some h
  rw [get_set]
  by_cases hut : t = u
  · subst hut
    rw [if_pos rfl, Clock.ticksAt_iff hdue]
    simp
  · rw [if_neg hut]
    simp [Ne.symm hut]

/-- The tick that is taken precedes all that come after it. -/
lemma precedes_of_ticksAt {c c' : Clocks} {now due : Nat} {t : Tick} (hc : c.Ticking)
    (h : c.pop now = some ((t, due), c')) {u : Tick} {x : Nat} (hx : (c'.get u).TicksAt x) :
    Precedes (t, due) (u, x) := by
  obtain ⟨hdue, -, rfl, hfirst⟩ := pop_eq_some h
  rw [get_set] at hx
  by_cases hut : t = u
  · subst hut
    rw [if_pos rfl] at hx
    have hle := hx.due_le (Clock.tick_due hdue)
    have hpos := hc t
    exact .inl (by simp only; omega)
  · rw [if_neg hut] at hx
    obtain ⟨d, hd, k, rfl⟩ := hx
    exact (hfirst u d hd (Ne.symm hut)).later (Nat.le_add_right _ _)

/-- The ticks that are taken are those of the progressions up to `now`. -/
lemma mem_popAll {c : Clocks} (hc : c.Ticking) (now : Nat) (t : Tick) (x : Nat) :
    (t, x) ∈ (c.popAll now).1 ↔ (c.get t).TicksAt x ∧ x ≤ now := by
  induction hc using Ticking.induct now with
  | done c hc hp =>
    rw [popAll_of_pop_none hp]
    simp only [List.not_mem_nil, false_iff, not_and, Nat.not_le]
    rintro ⟨due, hdue, k, rfl⟩
    have := pop_eq_none.mp hp t due hdue
    omega
  | more c u due c' hc hp ih =>
    have hle : due ≤ now := (pop_eq_some hp).2.1
    rw [popAll_of_pop_some hc hp, List.mem_cons, ih, ticksAt_pop_iff hp, Prod.mk.injEq]
    constructor
    · rintro (⟨rfl, rfl⟩ | ⟨hx, hxn⟩)
      · exact ⟨.inl ⟨rfl, rfl⟩, hle⟩
      · exact ⟨.inr hx, hxn⟩
    · rintro ⟨h | hx, hxn⟩
      · exact .inl h
      · exact .inr ⟨hx, hxn⟩

/-- The ticks are taken in order. -/
lemma pairwise_popAll {c : Clocks} (hc : c.Ticking) (now : Nat) :
    (c.popAll now).1.Pairwise Precedes := by
  induction hc using Ticking.induct now with
  | done c hc hp => rw [popAll_of_pop_none hp]; exact List.Pairwise.nil
  | more c t due c' hc hp ih =>
    rw [popAll_of_pop_some hc hp]
    refine List.pairwise_cons.mpr ⟨fun b hb => ?_, ih⟩
    obtain ⟨u, x⟩ := b
    exact precedes_of_ticksAt hc hp ((mem_popAll (hc.pop hp) now u x).mp hb).1

lemma interval_popAll {c : Clocks} (hc : c.Ticking) (now : Nat) (t : Tick) :
    ((c.popAll now).2.get t).interval = (c.get t).interval := by
  induction hc using Ticking.induct now with
  | done c hc hp => rw [popAll_of_pop_none hp]
  | more c u due c' hc hp ih =>
    obtain ⟨-, -, rfl, -⟩ := pop_eq_some hp
    rw [popAll_of_pop_some hc hp, ih, interval_set_tick]

/-- A stopped clock stays stopped. -/
lemma due_popAll_none {c : Clocks} (hc : c.Ticking) (now : Nat) (t : Tick)
    (ht : (c.get t).due = none) : ((c.popAll now).2.get t).due = none := by
  induction hc using Ticking.induct now with
  | done c hc hp => rw [popAll_of_pop_none hp]; exact ht
  | more c u due c' hc hp ih =>
    obtain ⟨hdue, -, rfl, -⟩ := pop_eq_some hp
    rw [popAll_of_pop_some hc hp]
    apply ih
    rw [get_set]
    split
    · rename_i hut
      rw [hut, ht] at hdue
      cases hdue
    · exact ht

/-- A running clock is left at its first tick after `now`. -/
lemma due_popAll_some {c : Clocks} (hc : c.Ticking) (now : Nat) (t : Tick) {d : Nat}
    (ht : (c.get t).due = some d) :
    ∃ x, ((c.popAll now).2.get t).due = some x ∧
      IsLeast {x | (c.get t).TicksAt x ∧ now < x} x := by
  induction hc using Ticking.induct now generalizing d with
  | done c hc hp =>
    rw [popAll_of_pop_none hp]
    exact ⟨d, ht, ⟨Clock.ticksAt_due ht, pop_eq_none.mp hp t d ht⟩, fun x hx => hx.1.due_le ht⟩
  | more c u due c' hc hp ih =>
    obtain ⟨hdue, hle, hc', -⟩ := pop_eq_some hp
    obtain ⟨d', hd'⟩ : ∃ d', (c'.get t).due = some d' := by
      rw [hc', get_set]
      split
      · exact ⟨_, Clock.tick_due hdue⟩
      · exact ⟨d, ht⟩
    obtain ⟨x, hx, hleast⟩ := ih hd'
    rw [popAll_of_pop_some hc hp]
    refine ⟨x, hx, ?_⟩
    -- the tick that is taken is not after `now`, so that the same ticks are left to choose from
    have hset : {x | (c.get t).TicksAt x ∧ now < x} = {x | (c'.get t).TicksAt x ∧ now < x} := by
      ext y
      simp only [Set.mem_ofPred_eq, ticksAt_pop_iff hp]
      constructor
      · rintro ⟨⟨-, rfl⟩ | hy, hny⟩
        · omega
        · exact ⟨hy, hny⟩
      · rintro ⟨hy, hny⟩
        exact ⟨.inr hy, hny⟩
    rw [hset]
    exact hleast

/-! ## Instalments -/

/-- **Taking ticks up to an earlier time first changes nothing.** -/
theorem popAll_of_le {c : Clocks} (hc : c.Ticking) {s now : Nat} (h : s ≤ now) :
    c.popAll now =
      ((c.popAll s).1 ++ ((c.popAll s).2.popAll now).1, ((c.popAll s).2.popAll now).2) := by
  induction hc using Ticking.induct s with
  | done c hc hp => rw [popAll_of_pop_none hp]; rfl
  | more c t due c' hc hp ih =>
    rw [popAll_of_pop_some hc hp, popAll_of_pop_some hc (pop_mono hp h), ih]; rfl

/-- Instalments that end at `now` and do not go past it before come to taking all ticks at `now`.

**Proof sketch.** Induction on the instalments. The first is absorbed by `popAll_of_le`. -/
lemma instalments_append {c : Clocks} (hc : c.Ticking) (earlier : List Nat) (now : Nat)
    (h : ∀ s ∈ earlier, s ≤ now) : c.instalments (earlier ++ [now]) = c.popAll now := by
  induction earlier generalizing c with
  | nil => simp [instalments]
  | cons s rest ih =>
    have hs : s ≤ now := h s List.mem_cons_self
    have hrest : ∀ s ∈ rest, s ≤ now := fun r hr => h r (List.mem_cons_of_mem _ hr)
    rw [List.cons_append, instalments, ih (hc.popAll s) hrest, popAll_of_le hc hs]

/-! ## The merge -/

/-- **Draining merges three arithmetic progressions.** After finitely many ticks none is due any
more, however many may be taken. The ticks are those of each clock's progression up to `now`, each
once, in order of time and with ties in the order of the clocks. Stopped clocks stay stopped, and
a running clock is left at its first tick after `now`. Draining at any earlier times before makes
no difference. -/
theorem drain_progressions (c : Clocks) (hc : c.Ticking) (now : Nat) :
    ∃ (count : Nat) (ticks : List (Tick × Nat)) (after : Clocks),
      (∀ limit, count ≤ limit → c.drain limit now = (ticks, after)) ∧
      ticks.length = count ∧ after.pop now = none ∧
      (∀ t time, (t, time) ∈ ticks ↔ (c.get t).TicksAt time ∧ time ≤ now) ∧
      ticks.Nodup ∧ ticks.Pairwise Precedes ∧
      (∀ t, (after.get t).interval = (c.get t).interval) ∧
      (∀ t, (c.get t).due = none → (after.get t).due = none) ∧
      (∀ t due, (c.get t).due = some due → ∃ first, (after.get t).due = some first ∧
        IsLeast {time | (∃ k, time = due + k * (c.get t).interval) ∧ now < time} first) ∧
      ∀ earlier : List Nat, (∀ s ∈ earlier, s ≤ now) →
        c.instalments (earlier ++ [now]) = (ticks, after) := by
  refine ⟨c.dueCount now, (c.popAll now).1, (c.popAll now).2,
    fun limit hlimit => drain_of_dueCount_le hc hlimit, length_popAll hc now, pop_popAll hc now,
    mem_popAll hc now, ?_, pairwise_popAll hc now, interval_popAll hc now,
    due_popAll_none hc now, fun t due hdue => ?_,
    fun earlier h => instalments_append hc earlier now h⟩
  · exact (pairwise_popAll hc now).imp Precedes.ne
  · obtain ⟨first, hfirst, hleast⟩ := due_popAll_some hc now t hdue
    have hset : {time | (c.get t).TicksAt time ∧ now < time} =
        {time | (∃ k, time = due + k * (c.get t).interval) ∧ now < time} := by
      ext x
      simp [Clock.TicksAt, hdue]
    exact ⟨first, hfirst, hset ▸ hleast⟩

/-- Two clocks that tick together at 10, beside one that is stopped. -/
def coinciding : Clocks := ⟨⟨10, some 10⟩, ⟨5, none⟩, ⟨2, some 4⟩⟩

/-- With a tie at the very end of the time, and in instalments of which one goes back. -/
theorem drain_progressions_coinciding :
    coinciding.Ticking ∧
      (∀ limit, 5 ≤ limit → coinciding.drain limit 10 = coinciding.instalments [7, 3, 10]) ∧
      (coinciding.instalments [7, 3, 10]).1.Pairwise Precedes ∧
      IsLeast {time | (∃ k, time = 4 + k * 2) ∧ 10 < time} 12 := by
  have hc : coinciding.Ticking := by intro t; cases t <;> decide
  obtain ⟨count, ticks, after, hlimit, hcount, -, -, -, hsorted, -, -, hfirst, hinst⟩ :=
    drain_progressions coinciding hc 10
  have hall : coinciding.instalments [7, 3, 10] = (ticks, after) := hinst [7, 3] (by decide)
  have hfive : count = 5 := by
    rw [← hcount, show ticks = (coinciding.instalments [7, 3, 10]).1 by rw [hall]]
    decide
  obtain ⟨first, hdue, hleast⟩ := hfirst .cycle 4 rfl
  have htwelve : first = 12 := by
    rw [show after = (coinciding.instalments [7, 3, 10]).2 by rw [hall]] at hdue
    exact (Option.some.inj hdue).symm
  refine ⟨hc, fun limit hl => ?_, ?_, htwelve ▸ hleast⟩
  · rw [hall, hlimit limit (hfive ▸ hl)]
  · rw [hall]; exact hsorted

end Clocks

end Chip8
