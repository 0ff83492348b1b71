import Chip8.Machine.Loop
import Chip8.Proofs.Machine.Advance

set_option autoImplicit false
set_option relaxedAutoImplicit false

/-!
# Waking and sleeping

A machine that runs by itself wakes up many times and deals with what is due. All the times of
waking up together do what one advance to the last of them does.

## Main definitions

* `Chip8.Wakeup` — a time of waking up, with the machine that wakes up.
* `Chip8.Machine.wakeUps` — all of them in a run.

## Main results

* `Chip8.Machine.wake_eq_error`, `Chip8.Machine.wake_eq_none`, `Chip8.Machine.wake_eq_some` — what
  waking up can lead to.
* `Chip8.Machine.runFrom?_eq` — waking and sleeping is advancing to the time at the end.
-/

namespace Chip8

/-- A time of waking up. -/
structure Wakeup (δ : Type) where
  /-- The time. -/
  time : Nat
  /-- The machine before it has dealt with anything. -/
  machine : Machine δ

variable {δ : Type} [Devices δ]

namespace Wakeup

/-- The ticks that are handled. -/
def events (w : Wakeup δ) : List (Event δ) := w.machine.eventsTo w.time

/-- The user wants to leave when the ticks have been handled. -/
def quits (w : Wakeup δ) : Bool :=
  Keypad.quitRequested (Machine.advanceTo w.time w.machine).state.devices

end Wakeup

namespace Machine

/-- The times of waking up from `now` on, no more than `fuel` of them. -/
def wakeUpsFrom (limit : Option Nat) : (fuel : Nat) → (now : Nat) → Machine δ → List (Wakeup δ)
  | 0, _, _ => []
  | fuel + 1, now, m =>
    ⟨now, m⟩ ::
      match wake limit now m with
      | ⟨m', .ok (some pause), _⟩ => wakeUpsFrom limit fuel (now + pause) m'
      | ⟨_, .ok none, _⟩ => []
      | ⟨_, .error _, _⟩ => []

/-- The times of waking up in a run. -/
def wakeUps (limit : Option Nat) (fuel : Nat) (m : Machine δ) : List (Wakeup δ) :=
  wakeUpsFrom limit fuel 0 (begin m).state

/-! ## Waking up -/

/-- **All that waking up can lead to**: a failure, the end of the run, or a sleep. -/
lemma wake_eq (limit : Option Nat) (now : Nat) (m : Machine δ) :
    wake limit now m =
      match advanceTo now m with
      | ⟨m', .error fault, ns⟩ => ⟨m', .error fault, ns⟩
      | ⟨m', .ok (), ns⟩ =>
        if Keypad.quitRequested m'.devices then ⟨m', .ok none, ns ++ [.quitRequested]⟩
        else if m'.reached limit then ⟨m', .ok none, ns⟩
        else ⟨m', .ok (some (m'.idle now)), ns⟩ := by
  rcases h : advanceTo now m with ⟨m', fault | ⟨⟩, ns⟩
  · exact Action.bind_of_error h
  · refine (Action.bind_of_ok h).trans ?_
    have hget : (Action.get : Action (Machine δ) (Machine δ)) m' = ⟨m', .ok m', []⟩ := rfl
    have hnote : Action.note .quitRequested m' = ⟨m', .ok (), [.quitRequested]⟩ := rfl
    rw [Action.bind_of_ok hget]
    simp only [List.nil_append]
    by_cases hquit : Keypad.quitRequested m'.devices
    · rw [if_pos hquit, if_pos hquit, Action.bind_of_ok hnote]
      rfl
    · rw [if_neg hquit, if_neg hquit]
      split <;> simp [Pure.pure, Action.pure]

section Wake

variable {limit : Option Nat} {now : Nat} {m m' : Machine δ} {ns : List Notice}

/-- Waking up fails as advancing does. -/
lemma wake_eq_error {fault : Fault} (h : wake limit now m = ⟨m', .error fault, ns⟩) :
    advanceTo now m = ⟨m', .error fault, ns⟩ := by
  rw [wake_eq] at h
  rcases ha : advanceTo now m with ⟨m₁, fault₁ | ⟨⟩, ns₁⟩ <;> rw [ha] at h <;> simp only at h
  · cases h; rfl
  · split at h
    · cases h
    · split at h <;> cases h

/-- The run is over when the user wants to leave or enough has been done. -/
lemma wake_eq_none (h : wake limit now m = ⟨m', .ok none, ns⟩) :
    (∃ ns₁, advanceTo now m = ⟨m', .ok (), ns₁⟩) ∧
      (Keypad.quitRequested m'.devices = true ∨ m'.reached limit = true) := by
  rw [wake_eq] at h
  rcases ha : advanceTo now m with ⟨m₁, fault₁ | ⟨⟩, ns₁⟩ <;> rw [ha] at h <;> simp only at h
  · cases h
  · split at h
    · rename_i hquit
      cases h
      exact ⟨⟨ns₁, rfl⟩, .inl hquit⟩
    · split at h
      · rename_i hreached
        cases h
        exact ⟨⟨ns, rfl⟩, .inr hreached⟩
      · cases h

/-- The machine goes to sleep when nothing has failed and there is more to do. -/
lemma wake_eq_some {pause : Nat} (h : wake limit now m = ⟨m', .ok (some pause), ns⟩) :
    advanceTo now m = ⟨m', .ok (), ns⟩ ∧ pause = m'.idle now ∧
      Keypad.quitRequested m'.devices = false ∧ m'.reached limit = false := by
  rw [wake_eq] at h
  rcases ha : advanceTo now m with ⟨m₁, fault₁ | ⟨⟩, ns₁⟩ <;> rw [ha] at h <;> simp only at h
  · cases h
  · split at h
    · cases h
    · rename_i hquit
      split at h
      · cases h
      · rename_i hreached
        cases h
        exact ⟨rfl, rfl, Bool.eq_false_iff.mpr hquit, Bool.eq_false_iff.mpr hreached⟩

end Wake

/-! ## All the times of waking up -/

/-- **Waking and sleeping is advancing to the time at the end.** How often the machine has woken up
until then makes no difference to the machine, to the result or to the ticks that are handled.

**Proof sketch.** Induction on how often the machine may wake up. What it does the first time is
the beginning of what it does when it advances to the time at the end at once. -/
theorem runFrom?_eq {limit : Option Nat} {fuel now time : Nat} {m : Machine δ}
    {o : Outcome (Machine δ) Unit} (hm : m.clocks.Ticking)
    (h : runFrom? limit fuel now m = some (time, o)) :
    now ≤ time ∧ o.state = (advanceTo time m).state ∧ o.result = (advanceTo time m).result ∧
      (wakeUpsFrom limit fuel now m).flatMap Wakeup.events = eventsTo time m := by
  induction fuel generalizing now m o with
  | zero => cases h
  | succ fuel ih =>
    rw [runFrom?] at h
    rw [wakeUpsFrom]
    rcases hw : wake limit now m with ⟨m', fault | _ | pause, ns⟩ <;> rw [hw] at h <;>
      simp only at h
    · have ha := wake_eq_error hw
      cases h
      exact ⟨Nat.le_refl _, by rw [ha], by rw [ha], List.append_nil _⟩
    · obtain ⟨⟨ns₁, ha⟩, -⟩ := wake_eq_none hw
      cases h
      exact ⟨Nat.le_refl _, by rw [ha], by rw [ha], List.append_nil _⟩
    · obtain ⟨ha, -, -, -⟩ := wake_eq_some hw
      obtain ⟨⟨time', o'⟩, hrest, ho⟩ := Option.map_eq_some_iff.mp h
      cases ho
      obtain ⟨hle, hstate, hresult, hevents⟩ := ih (ticking_of_advanceTo hm ha) hrest
      have hnow : now ≤ time' := by omega
      obtain ⟨hsplit, hone⟩ := advanceTo_of_ok hm hnow ha
      rw [hone, hsplit]
      refine ⟨hnow, hstate, hresult, ?_⟩
      rw [List.flatMap_cons, hevents]
      rfl

/-! ## Whole runs -/

/-- What ends a run stops the machine, and gives notice if that succeeds. -/
lemma finish_eq (m : Machine δ) : (finish m).state = (stop m).state ∧
    (finish m).result = (stop m).result := by
  rcases h : stop m with ⟨m', fault | ⟨⟩, ns⟩
  · rw [finish, Action.bind_of_error h]
    exact ⟨rfl, rfl⟩
  · rw [finish, Action.bind_of_ok h]
    exact ⟨rfl, rfl⟩

/-- A run that is over has started the clocks, woken up and slept, and stopped the machine. -/
lemma run?_eq_some {limit : Option Nat} {fuel time : Nat} {m : Machine δ}
    {o : Outcome (Machine δ) Unit} (h : m.run? limit fuel = some (time, o)) :
    ∃ body, runFrom? limit fuel 0 (start 0 m).state = some (time, body) ∧
      o.state = (stop body.state).state ∧
      o.result = (stop body.state).result.bind fun _ => body.result := by
  obtain ⟨⟨time', body⟩, hbody, ho⟩ := Option.map_eq_some_iff.mp h
  obtain ⟨hstate, hresult⟩ := finish_eq body.state
  cases ho
  refine ⟨body, hbody, hstate, ?_⟩
  simp only [hresult]
  cases (stop body.state).result <;> rfl

end Machine

end Chip8
