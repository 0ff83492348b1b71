import Chip8.Action
import Chip8.Clock.Basic
import Chip8.Config

set_option autoImplicit false
set_option relaxedAutoImplicit false

/-!
# The three clocks of a machine

The clocks for the delay timer, the sound timer and the instructions, on one time line. Their ticks
are taken one at a time, the earliest first; of ticks due at the same time the delay timer's comes
first and the instruction's last.

## Main definitions

* `Chip8.Clocks` — the three clocks.
* `Chip8.Clocks.deadline` — when the next tick of any clock is due.
* `Chip8.Clocks.pop` — takes the next tick if it is due.
* `Chip8.Clocks.drain` — takes ticks until none is due.
-/

namespace Chip8

/-- The three clocks. -/
structure Clocks where
  /-- The clock of the delay timer. -/
  delay : Clock
  /-- The clock of the sound timer. -/
  sound : Clock
  /-- The clock of the instructions. -/
  cycle : Clock
  deriving DecidableEq, Repr

/-- The earliest of some dated things; the first of them when several are equally early. -/
def earliest {α : Type} : List (α × Nat) → Option (α × Nat)
  | [] => none
  | a :: rest =>
    match earliest rest with
    | none => some a
    | some b => if a.2 ≤ b.2 then some a else some b

namespace Clocks

/-- The stopped clocks for a configuration. -/
def ofConfig (c : Config) : Clocks :=
  ⟨.ofInterval c.delay, .ofInterval c.sound, .ofInterval c.cycle⟩

/-- The clock that a kind of tick comes from. -/
def get (c : Clocks) : Tick → Clock
  | .delay => c.delay
  | .sound => c.sound
  | .cycle => c.cycle

/-- The clocks with one of them replaced. -/
def set (c : Clocks) (t : Tick) (clock : Clock) : Clocks :=
  match t with
  | .delay => { c with delay := clock }
  | .sound => { c with sound := clock }
  | .cycle => { c with cycle := clock }

theorem get_set (c : Clocks) (t u : Tick) (clock : Clock) :
    (c.set t clock).get u = if t = u then clock else c.get u := by
  cases t <;> cases u <;> rfl

/-- The clocks by name, in the order in which ticks due at the same time are taken. -/
def toList (c : Clocks) : List (Tick × Clock) :=
  [(.delay, c.delay), (.sound, c.sound), (.cycle, c.cycle)]

/-- Some clock runs. -/
def isRunning (c : Clocks) : Bool :=
  c.toList.any (·.2.isRunning)

/-- The running clocks with the times of their next ticks. -/
def dues (c : Clocks) : List (Tick × Nat) :=
  c.toList.filterMap fun (t, clock) => clock.due.map fun due => (t, due)

/-- The time of the next tick; none when no clock runs. -/
def deadline (c : Clocks) : Option Nat := (c.toList.filterMap (·.2.due)).min?

/-- The first of the earliest ticks that are due by `now`, with its time, and the clocks after. -/
def pop (c : Clocks) (now : Nat) : Option ((Tick × Nat) × Clocks) :=
  match earliest (c.dues.filter (·.2 ≤ now)) with
  | some (t, due) => some ((t, due), c.set t ((c.get t).fire now).2)
  | none => none

/-- The ticks that are due by `now`, in order and with their times, and the clocks after them. No
more than `limit` ticks are taken. -/
def drain : (limit : Nat) → Clocks → (now : Nat) → List (Tick × Nat) × Clocks
  | 0, c, _ => ([], c)
  | limit + 1, c, now =>
    match c.pop now with
    | none => ([], c)
    | some (t, c') =>
      let (ts, last) := drain limit c' now
      (t :: ts, last)

/-- The number of ticks of all clocks that are due by `now`, for clocks with time between their
ticks. -/
def dueCount (c : Clocks) (now : Nat) : Nat :=
  c.delay.dueCount now + c.sound.dueCount now + c.cycle.dueCount now

/-- The clocks running from `now` on; those that run already are left alone. -/
def started (c : Clocks) (now : Nat) : Clocks :=
  ⟨c.delay.start now, c.sound.start now, c.cycle.start now⟩

/-- The clocks stopped. -/
def stopped (c : Clocks) : Clocks :=
  ⟨c.delay.stop, c.sound.stop, c.cycle.stop⟩

/-- Starts the clocks and gives notice of it. -/
def start (now : Nat) : Action Clocks Unit := fun c =>
  ⟨c.started now, .ok (), [.clocksStarted now]⟩

/-- Stops the clocks and gives notice of it. -/
def stop : Action Clocks Unit := fun c =>
  ⟨c.stopped, .ok (), [.clocksStopped]⟩

end Clocks

end Chip8
