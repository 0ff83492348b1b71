set_option autoImplicit false
set_option relaxedAutoImplicit false

/-!
# Clocks

A clock ticks at a fixed interval while it runs. Times are in nanoseconds on a time line that has no
present of its own: whoever asks says what time it is. They are numbers without a bound. Where they
are kept as seconds in words of 64 bits, the sums in `Chip8.Clock.start` and `Chip8.Clock.fire`
would overflow when they reach `2 ^ 64` seconds, and nothing is said of such times.

## Main definitions

* `Chip8.Clock` — an interval, and the time of the next tick while the clock runs.
* `Chip8.Clock.start`, `Chip8.Clock.stop`, `Chip8.Clock.fire` — what happens to a clock.
* `Chip8.Clock.dueCount` — how many ticks are due by a time.
-/

namespace Chip8

/-- Something that ticks at a fixed interval. -/
structure Clock where
  /-- The time between two ticks. -/
  interval : Nat
  /-- The time of the next tick; none when the clock is stopped. -/
  due : Option Nat
  deriving DecidableEq, Repr

namespace Clock

/-- The stopped clock with an interval. -/
def ofInterval (interval : Nat) : Clock := ⟨interval, none⟩

/-- The clock runs. -/
def isRunning (c : Clock) : Bool := c.due.isSome

/-- The clock running, with its first tick one interval after `now`. A clock that runs already is
left alone. -/
def start (c : Clock) (now : Nat) : Clock :=
  match c.due with
  | some _ => c
  | none => { c with due := some (now + c.interval) }

/-- The clock stopped. -/
def stop (c : Clock) : Clock := { c with due := none }

/-- Takes the next tick if it is due by `now`: whether it was, and the clock after it. The tick
behind it is due an interval later than this one was, however late it came. -/
def fire (c : Clock) (now : Nat) : Bool × Clock :=
  match c.due with
  | some due => if due ≤ now then (true, { c with due := some (due + c.interval) }) else (false, c)
  | none => (false, c)

/-- The number of ticks that are due by `now`, for a clock with time between its ticks. -/
def dueCount (c : Clock) (now : Nat) : Nat :=
  match c.due with
  | some due => if due ≤ now then (now - due) / c.interval + 1 else 0
  | none => 0

end Clock

end Chip8
