import Mathlib.Tactic.Lemma
import Chip8.Action

set_option autoImplicit false
set_option relaxedAutoImplicit false

/-!
# Actions on two kinds of state

A function from one kind of state to another commutes with a pair of actions if it makes no
difference whether it is applied before the one or after the other. A pair of composite actions is
treated part by part.

## Main definitions

* `Chip8.Outcome.map` — an outcome with its state seen through a function.
* `Chip8.Action.Commutes` — a function commutes with a pair of actions.

## Main results

* `Chip8.Action.Commutes.bind`, `Chip8.Action.Commutes.get_bind`, `Chip8.Action.Commutes.zoom` —
  composite actions.
-/

namespace Chip8

/-- The outcome with its state seen through `f`. -/
def Outcome.map {σ τ α : Type} (f : σ → τ) (o : Outcome σ α) : Outcome τ α :=
  ⟨f o.state, o.result, o.notices⟩

namespace Action

variable {σ τ σ' τ' α β : Type}

/-- Applying `f` and then doing `y` is doing `x` and then applying `f`: with the same result, the
same notices and the same state in the end, whether they succeed or fail. -/
def Commutes (f : σ → τ) (x : Action σ α) (y : Action τ α) : Prop :=
  ∀ s, y (f s) = (x s).map f

namespace Commutes

variable {f : σ → τ}

lemma pure (a : α) : Commutes f (Pure.pure a) (Pure.pure a) := fun _ => rfl

lemma note (notice : Notice) : Commutes f (Action.note notice) (Action.note notice) := fun _ => rfl

lemma query {p : σ → Except Fault α} {q : τ → Except Fault α} (h : ∀ s, q (f s) = p s) :
    Commutes f (Action.query p) (Action.query q) := by
  intro s
  simp only [Action.query, Outcome.map, h]

lemma modify {g : σ → σ} {h : τ → τ} (hgh : ∀ s, h (f s) = f (g s)) :
    Commutes f (Action.modify g) (Action.modify h) := by
  intro s
  simp only [Action.modify, Outcome.map, hgh]

lemma bind {x : Action σ α} {y : Action τ α} {g : α → Action σ β} {h : α → Action τ β}
    (hxy : Commutes f x y) (hgh : ∀ a, Commutes f (g a) (h a)) :
    Commutes f (x >>= g) (y >>= h) := by
  intro s
  change Action.bind y h (f s) = (Action.bind x g s).map f
  have hs := hxy s
  rcases hx : x s with ⟨s', fault | a, ns⟩
  · rw [hx] at hs
    simp only [Action.bind, hs, hx, Outcome.map]
  · rw [hx] at hs
    have hs' : h a (f s') = (g a s').map f := hgh a s'
    simp only [Action.bind, hs, hx, Outcome.map, hs']

/-- Reading the state is the one action whose value the function changes. -/
lemma get_bind {g : σ → Action σ β} {h : τ → Action τ β} (hgh : ∀ s, Commutes f (g s) (h (f s))) :
    Commutes f (Action.get >>= g) (Action.get >>= h) := by
  intro s
  change Action.bind Action.get h (f s) = (Action.bind Action.get g s).map f
  have hs : h (f s) (f s) = (g s s).map f := hgh s s
  simp only [Action.bind, Action.get, Outcome.map, hs]

/-- Actions on a part commute with a function of the whole if they commute with a function of the
part. -/
lemma zoom {part : σ → σ'} {put : σ' → σ → σ} {part' : τ → τ'} {put' : τ' → τ → τ} {g : σ' → τ'}
    {x : Action σ' α} {y : Action τ' α} (hpart : ∀ s, part' (f s) = g (part s))
    (hput : ∀ r s, put' (g r) (f s) = f (put r s)) (hxy : Commutes g x y) :
    Commutes f (x.zoom part put) (y.zoom part' put') := by
  intro s
  simp only [Action.zoom, hpart, hxy (part s), Outcome.map, hput]

lemma ite {p : Prop} [Decidable p] {x x' : Action σ α} {y y' : Action τ α}
    (h : Commutes f x y) (h' : Commutes f x' y') :
    Commutes f (if p then x else x') (if p then y else y') := by
  split
  · exact h
  · exact h'

end Commutes

end Action

end Chip8
