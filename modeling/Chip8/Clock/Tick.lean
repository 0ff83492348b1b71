set_option autoImplicit false
set_option relaxedAutoImplicit false

/-!
# Ticks

The machine has three clocks. A tick is known by the clock that it comes from.

## Main definitions

* `Chip8.Tick` — the three clocks.
* `Chip8.Tick.name` — their names in messages.
-/

namespace Chip8

/-- The clock that a tick comes from. When ticks fall due at the same time they are taken in the
order of the constructors. -/
inductive Tick where
  /-- The delay timer counts down. -/
  | delay
  /-- The sound timer counts down. -/
  | sound
  /-- An instruction is carried out. -/
  | cycle
  deriving DecidableEq, Repr, Inhabited

namespace Tick

/-- The name of a clock. -/
def name : Tick → String
  | delay => "delay"
  | sound => "sound"
  | cycle => "cycle"

end Tick

end Chip8
