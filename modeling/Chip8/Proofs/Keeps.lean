import Mathlib.Tactic.Lemma
import Chip8.Action

set_option autoImplicit false
set_option relaxedAutoImplicit false

/-!
# Sequencing, and what an action leaves alone

How two actions in sequence behave, by the outcome of the first; and actions that leave some part
of the state as it is, whether they succeed or fail.

## Main definitions

* `Chip8.Action.Keeps` — an action leaves a part of the state alone.

## Main results

* `Chip8.Action.bind_of_ok`, `Chip8.Action.bind_of_error` — sequencing by the first outcome.
* `Chip8.Action.bind_eq_ok` — what a sequence that succeeds consists of.
* `Chip8.Action.bind_eq_error` — a sequence whose second action cannot fail.
* `Chip8.Action.Keeps.bind`, `Chip8.Action.Keeps.zoom` — what is left alone by composite actions.
-/

namespace Chip8

namespace Action

variable {σ τ ρ α β : Type}

/-! ## Sequencing -/

/-- After a success the second action works on the state that the first has left. -/
lemma bind_of_ok {x : Action σ α} {f : α → Action σ β} {s s' : σ} {a : α} {ns : List Notice}
    (h : x s = ⟨s', .ok a, ns⟩) :
    (x >>= f) s = ⟨(f a s').state, (f a s').result, ns ++ (f a s').notices⟩ := by
  change Action.bind x f s = _
  simp only [Action.bind, h]

/-- After a failure there is no second action. -/
lemma bind_of_error {x : Action σ α} {f : α → Action σ β} {s s' : σ} {fault : Fault}
    {ns : List Notice} (h : x s = ⟨s', .error fault, ns⟩) :
    (x >>= f) s = ⟨s', .error fault, ns⟩ := by
  change Action.bind x f s = _
  simp only [Action.bind, h]

/-- Two actions succeed together only if each of them does. -/
lemma bind_eq_ok {x : Action σ α} {f : α → Action σ β} {s s'' : σ} {b : β} {ns : List Notice}
    (h : (x >>= f) s = ⟨s'', .ok b, ns⟩) :
    ∃ s' a ns₁ ns₂, x s = ⟨s', .ok a, ns₁⟩ ∧ f a s' = ⟨s'', .ok b, ns₂⟩ ∧ ns = ns₁ ++ ns₂ := by
  rcases hx : x s with ⟨s', fault | a, ns₁⟩
  · rw [bind_of_error hx] at h
    cases h
  · rw [bind_of_ok hx] at h
    rcases hf : f a s' with ⟨t, r, ns₂⟩
    rw [hf] at h
    cases h
    exact ⟨s', a, ns₁, ns₂, rfl, hf, rfl⟩

/-- Reading the state first is knowing it. -/
lemma get_bind (f : σ → Action σ α) (s : σ) : (Action.get >>= f) s = f s s := rfl

/-- Changing the state first is beginning with the changed one. -/
lemma modify_bind (g : σ → σ) (f : Unit → Action σ α) (s : σ) :
    (Action.modify g >>= f) s = f () (g s) := rfl

/-- If the second action cannot fail, it depends on the first whether there is a result. -/
lemma result_bind_of_ok {x : Action σ α} {f : α → Action σ β} {b : β}
    (hf : ∀ a s, (f a s).result = .ok b) (s : σ) :
    ((x >>= f) s).result = (x s).result.map fun _ => b := by
  rcases h : x s with ⟨s', fault | a, ns⟩
  · rw [bind_of_error h]; rfl
  · rw [bind_of_ok h]; exact hf a s'

/-- If the second action can only give one value, that is the value of both. -/
lemma ok_of_bind {x : Action σ α} {f : α → Action σ β} {b b' : β} {s s' : σ} {ns : List Notice}
    (hf : ∀ a s, (f a s).result = .ok b) (h : (x >>= f) s = ⟨s', .ok b', ns⟩) : b' = b := by
  obtain ⟨t, a, _, _, -, hlast, -⟩ := bind_eq_ok h
  have hresult := hf a t
  rw [hlast] at hresult
  exact Except.ok.inj hresult

/-- If the second action cannot fail, a failure is that of the first. -/
lemma bind_eq_error {x : Action σ α} {f : α → Action σ β} {b : β} {s s' : σ} {fault : Fault}
    {ns : List Notice} (hf : ∀ a s, (f a s).result = .ok b)
    (h : (x >>= f) s = ⟨s', .error fault, ns⟩) : x s = ⟨s', .error fault, ns⟩ := by
  rcases hx : x s with ⟨t, fault' | a, ns'⟩
  · rw [bind_of_error hx] at h
    cases h
    rfl
  · rw [bind_of_ok hx, hf] at h
    cases h

/-- Whatever the first action leads to, the state after both is that of the first or that of the
second. -/
lemma state_bind (x : Action σ α) (f : α → Action σ β) (s : σ) :
    ((x >>= f) s).state = (x s).state ∨ ∃ a, ((x >>= f) s).state = (f a (x s).state).state := by
  rcases h : x s with ⟨s', fault | a, ns⟩
  · left; rw [bind_of_error h]
  · right; exact ⟨a, by rw [bind_of_ok h]⟩

/-! ## What is left alone -/

/-- The action leaves a part of the state as it is, whether it succeeds or fails. -/
def Keeps (part : σ → τ) (x : Action σ α) : Prop := ∀ s, part (x s).state = part s

namespace Keeps

variable {part : σ → τ}

lemma pure (a : α) : Keeps part (Pure.pure a : Action σ α) := fun _ => rfl

lemma get : Keeps part (Action.get : Action σ σ) := fun _ => rfl

lemma query (f : σ → Except Fault α) : Keeps part (Action.query f) := fun _ => rfl

lemma modify {f : σ → σ} (h : ∀ s, part (f s) = part s) : Keeps part (Action.modify f) := h

/-- What the second action leaves alone is as the first action has left it. -/
lemma part_bind (x : Action σ α) {f : α → Action σ β} (hf : ∀ a, Keeps part (f a)) (s : σ) :
    part ((x >>= f) s).state = part (x s).state := by
  rcases state_bind x f s with h | ⟨a, h⟩
  · rw [h]
  · rw [h, hf]

lemma bind {x : Action σ α} {f : α → Action σ β} (hx : Keeps part x)
    (hf : ∀ a, Keeps part (f a)) : Keeps part (x >>= f) :=
  fun s => (part_bind x hf s).trans (hx s)

/-- An action on one part leaves alone what writing that part back does not touch. -/
lemma zoom {read : σ → ρ} {put : ρ → σ → σ} {x : Action ρ α}
    (h : ∀ r s, part (put r s) = part s) : Keeps part (x.zoom read put) :=
  fun s => h _ s

end Keeps

end Action

end Chip8
