import Chip8.Fault
import Chip8.Notice

set_option autoImplicit false
set_option relaxedAutoImplicit false

/-!
# Actions

An action works on a state, may fail and may give notice of what it does. What it did before it
failed stays done: a failure comes with the state in which it left things.

## Main definitions

* `Chip8.Outcome` — the state an action leaves, its result and its notices.
* `Chip8.Action` — a function from states to outcomes, with sequencing as a monad.
* `Chip8.Action.zoom` — an action on a part, done to the whole.

## Main results

* `Chip8.Action.pure_bind`, `Chip8.Action.bind_pure`, `Chip8.Action.bind_assoc` — the laws of
  sequencing.
-/

namespace Chip8

/-- What an action on a state of type `σ` leads to. -/
structure Outcome (σ α : Type) where
  /-- The state that the action leaves, whether it succeeds or fails. -/
  state : σ
  /-- The value of the action, or why it failed. -/
  result : Except Fault α
  /-- What the action gave notice of, the oldest notice first. -/
  notices : List Notice

/-- Something that can be done to a state of type `σ`. -/
def Action (σ α : Type) : Type := σ → Outcome σ α

namespace Action

variable {σ τ α β : Type}

/-- Leaves the state alone. -/
def pure (a : α) : Action σ α := fun s => ⟨s, .ok a, []⟩

/-- Does `x` and then, unless `x` fails, what `f` makes of its value. -/
def bind (x : Action σ α) (f : α → Action σ β) : Action σ β := fun s =>
  match x s with
  | ⟨s, .ok a, notices⟩ =>
    let after := f a s
    ⟨after.state, after.result, notices ++ after.notices⟩
  | ⟨s, .error fault, notices⟩ => ⟨s, .error fault, notices⟩

instance : Monad (Action σ) where
  pure := Action.pure
  bind := Action.bind

theorem pure_bind (a : α) (f : α → Action σ β) : bind (pure a) f = f a := by
  funext s
  simp [bind, pure]

theorem bind_pure (x : Action σ α) : bind x pure = x := by
  funext s
  simp only [bind, pure]
  rcases x s with ⟨_, _ | _, _⟩ <;> simp

theorem bind_assoc {γ : Type} (x : Action σ α) (f : α → Action σ β) (g : β → Action σ γ) :
    bind (bind x f) g = bind x fun a => bind (f a) g := by
  funext s
  simp only [bind]
  rcases x s with ⟨s', _ | a, _⟩
  · rfl
  · dsimp only
    rcases f a s' with ⟨_, _ | _, _⟩ <;> simp

instance : LawfulMonad (Action σ) :=
  LawfulMonad.mk' (Action σ) bind_pure pure_bind bind_assoc

/-- The current state. -/
def get : Action σ σ := fun s => ⟨s, .ok s, []⟩

/-- Changes the state. -/
def modify (f : σ → σ) : Action σ Unit := fun s => ⟨f s, .ok (), []⟩

/-- Fails, and leaves the state alone. -/
def fail (fault : Fault) : Action σ α := fun s => ⟨s, .error fault, []⟩

/-- Gives notice of something. -/
def note (notice : Notice) : Action σ Unit := fun s => ⟨s, .ok (), [notice]⟩

/-- Reads a value off the state, or fails. -/
def query (f : σ → Except Fault α) : Action σ α := fun s => ⟨s, f s, []⟩

/-- Replaces the state, or fails and leaves it alone. -/
def attempt (f : σ → Except Fault σ) : Action σ Unit := fun s =>
  match f s with
  | .ok s' => ⟨s', .ok (), []⟩
  | .error fault => ⟨s, .error fault, []⟩

/-- Does an action to the part of the state that `part` reads and `put` writes back. -/
def zoom (part : σ → τ) (put : τ → σ → σ) (x : Action τ α) : Action σ α := fun s =>
  let o := x (part s)
  ⟨put o.state s, o.result, o.notices⟩

end Action

end Chip8
