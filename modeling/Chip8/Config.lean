import Chip8.Fault
import Chip8.Text.Duration

set_option autoImplicit false
set_option relaxedAutoImplicit false

/-!
# Configurations

How fast the three clocks of a machine go, and the seed of its random bytes.

## Main definitions

* `Chip8.Config` — the intervals of the clocks and the seed.
* `Chip8.Config.ofFrequencies` — the configuration for clocks given in ticks a second.
* `Chip8.Config.validate` — no clock may tick without time between its ticks.
-/

namespace Chip8

/-- How a machine is set up. The three clocks are independent of one another; their intervals are
in nanoseconds. -/
structure Config where
  /-- The time between two instructions. -/
  cycle : Nat
  /-- The time between two decrements of the delay timer. -/
  delay : Nat
  /-- The time between two decrements of the sound timer. -/
  sound : Nat
  /-- The seed of the random bytes, if they are to be the same every time. -/
  seed : Option UInt64
  deriving DecidableEq, Repr

namespace Config

/-- The interval of a clock that ticks `frequency` times a second, rounded down to whole
nanoseconds. -/
def intervalOf (frequency : Nat) : Nat := Duration.second / frequency

/-- Instructions a second, where nothing else is said. -/
def standardCycles : Nat := 500

/-- Decrements of a timer a second, where nothing else is said. -/
def standardTimers : Nat := 60

/-- The configuration where nothing else is said. -/
def standard : Config :=
  ⟨intervalOf standardCycles, intervalOf standardTimers, intervalOf standardTimers, none⟩

/-- Finds the first of the three clocks for which a number is zero. -/
def firstZero (cycle delay sound : Nat) : Option Tick :=
  ([(Tick.cycle, cycle), (Tick.delay, delay), (Tick.sound, sound)].find? (·.2 == 0)).map (·.1)

/-- The configuration for clocks that tick so many times a second, without a seed. -/
def ofFrequencies (cycle delay sound : Nat) : Except Fault Config :=
  match firstZero cycle delay sound with
  | some clock => .error (.invalid (.zeroFrequency clock))
  | none => .ok ⟨intervalOf cycle, intervalOf delay, intervalOf sound, none⟩

/-- The configuration with another seed, or with none. -/
def withSeed (c : Config) (seed : Option UInt64) : Config := { c with seed := seed }

/-- Fails if a clock would tick without any time between its ticks. -/
def validate (c : Config) : Except Fault Unit :=
  match firstZero c.cycle c.delay c.sound with
  | some clock => .error (.invalid (.zeroInterval clock))
  | none => .ok ()

end Config

end Chip8
