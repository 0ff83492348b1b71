import Chip8.Machine.Basic

set_option autoImplicit false
set_option relaxedAutoImplicit false

/-!
# Running by itself

A machine that runs by itself deals with all ticks that are due, sleeps until the next one, and so
on until the user wants to leave or enough instructions have been carried out. Here time moves only
by sleeping; a program that runs a machine in real time does the same with a real clock.

## Main definitions

* `Chip8.Machine.wake` — what is done between two sleeps, and how long the next one is.
* `Chip8.Machine.runFrom?` — the sleeps and what is between them.
* `Chip8.Machine.run?` — the whole run, from starting the clocks to stopping them.
-/

namespace Chip8

/-- The longest time to sleep at once, so that a wish to leave is not overlooked for long. -/
def maxIdle : Nat := 50 * Duration.millisecond

namespace Machine

variable {δ : Type} [Devices δ]

/-- Enough instructions have been carried out. The count is over the whole life of the machine. -/
def reached (limit : Option Nat) (m : Machine δ) : Bool :=
  limit.any (· ≤ m.cycles)

/-- How long to sleep at the time `now`: until the next tick is due, but no longer than
`maxIdle`. -/
def idle (m : Machine δ) (now : Nat) : Nat :=
  match m.deadline with
  | some due => min (due - now) maxIdle
  | none => maxIdle

/-- Deals with all ticks that are due by `now`. The answer is how long to sleep, or none if the run
is over: the user wants to leave, or enough instructions have been carried out. -/
def wake (limit : Option Nat) (now : Nat) : Action (Machine δ) (Option Nat) := do
  advanceTo now
  let m ← Action.get
  if Keypad.quitRequested m.devices then
    Action.note .quitRequested
    return none
  else if m.reached limit then
    return none
  else
    return some (m.idle now)

/-- What begins a run: the clocks start at time zero. -/
def begin : Action (Machine δ) Unit := do
  start 0
  let m ← Action.get
  Action.note (.running m.cpu.pc)

/-- What ends a run. -/
def finish : Action (Machine δ) Unit := do
  stop
  let m ← Action.get
  Action.note (.stopped m.cycles)

/-- Wakes and sleeps from the time `now` on. The answer is the time at the end and the outcome,
or none if the run is not over after `fuel` times of waking up. -/
def runFrom? (limit : Option Nat) :
    (fuel : Nat) → (now : Nat) → Machine δ → Option (Nat × Outcome (Machine δ) Unit)
  | 0, _, _ => none
  | fuel + 1, now, m =>
    match wake limit now m with
    | ⟨m', .error fault, notices⟩ => some (now, ⟨m', .error fault, notices⟩)
    | ⟨m', .ok none, notices⟩ => some (now, ⟨m', .ok (), notices⟩)
    | ⟨m', .ok (some pause), notices⟩ =>
      (runFrom? limit fuel (now + pause) m').map fun (time, o) =>
        (time, { o with notices := notices ++ o.notices })

/-- Runs the machine by itself. The answer is the time slept in all and the outcome, or none if
the run is not over after `fuel` times of waking up. However the run ends, the clocks are stopped;
a failure to stop counts before a failure of the run. -/
def run? (limit : Option Nat) (fuel : Nat) (m : Machine δ) :
    Option (Nat × Outcome (Machine δ) Unit) :=
  let begun := begin m
  (runFrom? limit fuel 0 begun.state).map fun (time, body) =>
    let ended := finish body.state
    let result := match ended.result with
      | .ok () => body.result
      | .error fault => .error fault
    (time, ⟨ended.state, result, begun.notices ++ body.notices ++ ended.notices⟩)

end Machine

end Chip8
