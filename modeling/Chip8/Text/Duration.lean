set_option autoImplicit false
set_option relaxedAutoImplicit false

/-!
# The text of a duration

Durations are counted in nanoseconds. As text a duration is an exact decimal in the largest unit
in which it is at least one.

## Main definitions

* `Chip8.Duration.Unit`, `Chip8.Duration.unit` — the units, and the one in which a duration is
  written.
* `Chip8.Duration.text` — the text of a duration, such as `16.666666ms`.
-/

namespace Chip8.Duration

/-- The number of nanoseconds in a second. -/
def second : Nat := 1000000000

/-- The number of nanoseconds in a millisecond. -/
def millisecond : Nat := 1000000

/-- The number of nanoseconds in a microsecond. -/
def microsecond : Nat := 1000

/-- A unit of time. -/
structure Unit where
  /-- How many nanoseconds it is. -/
  size : Nat
  /-- Its name. -/
  name : String
  /-- The number of decimal places down to a nanosecond. -/
  places : Nat
  deriving DecidableEq, Repr

/-- The unit for a duration of `ns` nanoseconds: the largest in which it is at least one. A
duration of zero is counted in nanoseconds. -/
def unit (ns : Nat) : Unit :=
  if second ≤ ns then ⟨second, "s", 9⟩
  else if millisecond ≤ ns then ⟨millisecond, "ms", 6⟩
  else if microsecond ≤ ns then ⟨microsecond, "µs", 3⟩
  else ⟨1, "ns", 0⟩

/-- The decimals of `rest` as `places` digits, less the zeros at the end. -/
def decimals (places rest : Nat) : List Char :=
  let ds := Nat.toDigits 10 rest
  let padded := List.replicate (places - ds.length) '0' ++ ds
  (padded.reverse.dropWhile (· == '0')).reverse

/-- The text of a duration of `ns` nanoseconds. The decimal point appears only when a decimal
follows it. -/
def text (ns : Nat) : String :=
  let u := unit ns
  let whole := toString (ns / u.size)
  match decimals u.places (ns % u.size) with
  | [] => whole ++ u.name
  | ds => whole ++ "." ++ String.ofList ds ++ u.name

end Chip8.Duration
