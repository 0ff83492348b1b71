import Chip8.Proofs.Clock.Pop
import Chip8.Proofs.Machine.Tick

set_option autoImplicit false
set_option relaxedAutoImplicit false

/-!
# Dealing with every tick that is due

The loop that takes ticks and handles them, as a relation between the machine before, the ticks
that are handled and the outcome. The loop is bounded by the number of ticks that are due; the
relation has no bound, and every run of the loop is an instance of it.

## Main definitions

* `Chip8.Event` — one tick that is handled, with the machine that handles it.
* `Chip8.Machine.eventsTo` — the ticks that are handled when a machine advances.
* `Chip8.Machine.Advances` — the loop as a relation.

## Main results

* `Chip8.Machine.advances_advanceTo` — a machine that advances does what the relation says.
* `Chip8.Machine.Advances.eq` — the relation leaves no choice.
* `Chip8.Machine.advanceTo_of_ok`, `Chip8.Machine.advanceTo_of_error` — advancing in two goes.
-/

namespace Chip8

/-- One tick that is handled. -/
structure Event (δ : Type) where
  /-- The clock that ticks. -/
  tick : Tick
  /-- When the tick was due. -/
  due : Nat
  /-- The machine that handles the tick; the clock has moved on already. -/
  machine : Machine δ

namespace Machine

variable {δ : Type} [Devices δ]

/-- The ticks that are handled when a machine deals with no more than `limit` ticks that are due by
`now`. A tick that fails is the last. -/
def events : (limit now : Nat) → Machine δ → List (Event δ)
  | 0, _, _ => []
  | limit + 1, now, m =>
    match m.clocks.pop now with
    | none => []
    | some ((tick, due), clocks) =>
      let before := { m with clocks := clocks }
      ⟨tick, due, before⟩ ::
        match handle tick before with
        | ⟨m', .ok (), _⟩ => events limit now m'
        | ⟨_, .error _, _⟩ => []

/-- The ticks that are handled when a machine advances to `now`. -/
def eventsTo (now : Nat) (m : Machine δ) : List (Event δ) :=
  events (m.clocks.dueCount now) now m

/-! ## The loop as a relation -/

/-- A machine that advances to `now` handles the given ticks and comes to the given outcome. -/
inductive Advances (now : Nat) : Machine δ → List (Event δ) → Outcome (Machine δ) Unit → Prop where
  /-- No tick is due. -/
  | idle {m : Machine δ} : m.clocks.pop now = none → Advances now m [] ⟨m, .ok (), []⟩
  /-- A tick is taken and fails; those behind it stay due. -/
  | fault {m m' : Machine δ} {t : Tick} {due : Nat} {clocks : Clocks} {fault : Fault}
      {ns : List Notice} : m.clocks.pop now = some ((t, due), clocks) →
      handle t { m with clocks := clocks } = ⟨m', .error fault, ns⟩ →
      Advances now m [⟨t, due, { m with clocks := clocks }⟩] ⟨m', .error fault, ns⟩
  /-- A tick is taken and succeeds, and the others follow. -/
  | tick {m m' : Machine δ} {t : Tick} {due : Nat} {clocks : Clocks} {ns : List Notice}
      {es : List (Event δ)} {o : Outcome (Machine δ) Unit} :
      m.clocks.pop now = some ((t, due), clocks) →
      handle t { m with clocks := clocks } = ⟨m', .ok (), ns⟩ →
      Advances now m' es o →
      Advances now m (⟨t, due, { m with clocks := clocks }⟩ :: es)
        ⟨o.state, o.result, ns ++ o.notices⟩

/-- The clocks after a tick has been handled are those that taking it has left. -/
lemma clocks_of_handle {m m' : Machine δ} {t : Tick} {clocks : Clocks} {r : Except Fault Unit}
    {ns : List Notice} (h : handle t { m with clocks := clocks } = ⟨m', r, ns⟩) :
    m'.clocks = clocks := by
  have hkeep := clocks_handle t { m with clocks := clocks }
  rw [h] at hkeep
  exact hkeep

/-- With as many ticks as are due, the bounded loop is the loop.

**Proof sketch.** Induction on the number of ticks that are due, which taking one lowers by one and
handling it leaves alone. -/
lemma advances_advance {now limit : Nat} {m : Machine δ} (hm : m.clocks.Ticking)
    (hlimit : m.clocks.dueCount now = limit) :
    Advances now m (events limit now m) (advance limit now m) := by
  induction limit generalizing m with
  | zero => exact .idle (Clocks.dueCount_eq_zero.mp hlimit)
  | succ limit ih =>
    cases hp : m.clocks.pop now with
    | none =>
      rw [Clocks.dueCount_eq_zero.mpr hp] at hlimit
      cases hlimit
    | some p =>
      obtain ⟨⟨t, due⟩, clocks⟩ := p
      have hcount := Clocks.dueCount_pop hm hp
      rw [advance_of_pop_some hp]
      simp only [events, hp]
      rcases hh : handle t { m with clocks := clocks } with ⟨m', fault | ⟨⟩, ns⟩
      · rw [Action.bind_of_error hh]
        exact .fault hp hh
      · rw [Action.bind_of_ok hh]
        have hclocks := clocks_of_handle hh
        exact .tick hp hh (ih (hclocks ▸ hm.pop hp) (by rw [hclocks]; omega))

/-- **A machine that advances does what the relation says**, if its clocks have time between their
ticks. -/
theorem advances_advanceTo {m : Machine δ} (hm : m.clocks.Ticking) (now : Nat) :
    Advances now m (eventsTo now m) (advanceTo now m) :=
  advances_advance hm rfl

namespace Advances

variable {now : Nat} {m : Machine δ} {es : List (Event δ)} {o : Outcome (Machine δ) Unit}

/-- The relation leaves no choice. -/
lemma unique (h : Advances now m es o) {es' : List (Event δ)} {o' : Outcome (Machine δ) Unit}
    (h' : Advances now m es' o') : es = es' ∧ o = o' := by
  induction h generalizing es' o' with
  | idle hp =>
    cases h' with
    | idle _ => exact ⟨rfl, rfl⟩
    | fault hp' _ => rw [hp] at hp'; cases hp'
    | tick hp' _ _ => rw [hp] at hp'; cases hp'
  | fault hp hh =>
    cases h' with
    | idle hp' => rw [hp] at hp'; cases hp'
    | fault hp' hh' =>
      rw [hp] at hp'; cases hp'
      rw [hh] at hh'; cases hh'
      exact ⟨rfl, rfl⟩
    | tick hp' hh' _ =>
      rw [hp] at hp'; cases hp'
      rw [hh] at hh'; cases hh'
  | tick hp hh _ ih =>
    cases h' with
    | idle hp' => rw [hp] at hp'; cases hp'
    | fault hp' hh' =>
      rw [hp] at hp'; cases hp'
      rw [hh] at hh'; cases hh'
    | tick hp' hh' hrest =>
      rw [hp] at hp'; cases hp'
      rw [hh] at hh'; cases hh'
      obtain ⟨rfl, rfl⟩ := ih hrest
      exact ⟨rfl, rfl⟩

/-- What the relation says is what a machine does that advances. -/
lemma eq (hm : m.clocks.Ticking) (h : Advances now m es o) :
    eventsTo now m = es ∧ advanceTo now m = o :=
  (advances_advanceTo hm now).unique h

/-- The clocks still have time between their ticks when the machine has advanced. -/
lemma ticking (h : Advances now m es o) (hm : m.clocks.Ticking) : o.state.clocks.Ticking := by
  induction h with
  | idle _ => exact hm
  | fault hp hh => exact clocks_of_handle hh ▸ hm.pop hp
  | tick hp hh _ ih => exact ih (clocks_of_handle hh ▸ hm.pop hp)

/-- Without a failure no tick is left that is due. -/
lemma pop_eq_none (h : Advances now m es o) (ho : o.result = .ok ()) :
    o.state.clocks.pop now = none := by
  induction h with
  | idle hp => exact hp
  | fault _ _ => cases ho
  | tick _ _ _ ih => exact ih ho

/-! ## Advancing in two goes -/

/-- **Advancing to an earlier time first makes no difference**, if that succeeds: which tick is
taken next depends on the clocks alone, and not on how far the machine is to advance. -/
theorem trans {s : Nat} {m₁ : Machine δ} {ns : List Notice} {es' : List (Event δ)}
    {o' : Outcome (Machine δ) Unit} (h : Advances s m es o) (ho : o = ⟨m₁, .ok (), ns⟩)
    (hle : s ≤ now) (h' : Advances now m₁ es' o') :
    Advances now m (es ++ es') ⟨o'.state, o'.result, ns ++ o'.notices⟩ := by
  induction h generalizing ns with
  | idle _ =>
    cases ho
    exact h'
  | fault _ _ => cases ho
  | @tick m m₂ t due clocks ns₁ es o hp hh _ ih =>
    obtain ⟨s₂, r₂, ns₂⟩ := o
    simp only [Outcome.mk.injEq] at ho
    obtain ⟨rfl, rfl, rfl⟩ := ho
    rw [List.append_assoc]
    exact .tick (Clocks.pop_mono hp hle) hh (ih rfl)

/-- A failure on the way to an earlier time is the failure on the way to any later one. -/
theorem mono_of_error {s : Nat} {fault : Fault} (h : Advances s m es o)
    (ho : o.result = .error fault) (hle : s ≤ now) : Advances now m es o := by
  induction h with
  | idle _ => cases ho
  | fault hp hh => exact .fault (Clocks.pop_mono hp hle) hh
  | tick hp hh _ ih => exact .tick (Clocks.pop_mono hp hle) hh (ih ho)

end Advances

lemma ticking_advanceTo {m : Machine δ} (hm : m.clocks.Ticking) (now : Nat) :
    (advanceTo now m).state.clocks.Ticking :=
  (advances_advanceTo hm now).ticking hm

section TwoGoes

variable {m m₁ : Machine δ} {s now : Nat} {ns : List Notice}

lemma ticking_of_advanceTo {r : Except Fault Unit} (hm : m.clocks.Ticking)
    (h : advanceTo s m = ⟨m₁, r, ns⟩) : m₁.clocks.Ticking := by
  have hend := ticking_advanceTo hm s
  rw [h] at hend
  exact hend

/-- Advancing to `s` and from there to `now` is advancing to `now`. -/
lemma advanceTo_of_ok (hm : m.clocks.Ticking) (hle : s ≤ now)
    (h : advanceTo s m = ⟨m₁, .ok (), ns⟩) :
    eventsTo now m = eventsTo s m ++ eventsTo now m₁ ∧
      advanceTo now m =
        ⟨(advanceTo now m₁).state, (advanceTo now m₁).result,
          ns ++ (advanceTo now m₁).notices⟩ := by
  have hm₁ := ticking_of_advanceTo hm h
  exact ((advances_advanceTo hm s).trans h hle (advances_advanceTo hm₁ now)).eq hm

/-- Failing on the way to `s` is failing on the way to `now`. -/
lemma advanceTo_of_error {fault : Fault} (hm : m.clocks.Ticking) (hle : s ≤ now)
    (h : advanceTo s m = ⟨m₁, .error fault, ns⟩) :
    eventsTo now m = eventsTo s m ∧ advanceTo now m = ⟨m₁, .error fault, ns⟩ := by
  have hfirst := advances_advanceTo hm s
  rw [h] at hfirst
  exact (hfirst.mono_of_error rfl hle).eq hm

end TwoGoes

end Machine

end Chip8
