set_option autoImplicit false
set_option relaxedAutoImplicit false

/-!
# Hexadecimal text

Numbers in base sixteen, in lower case and without a mark. Addresses, instruction words and
operands are written this way.

## Main definitions

* `Chip8.Hex.digits` — the shortest text of a number.
* `Chip8.Hex.padded` — the text filled up with zeros to a least width.
-/

namespace Chip8.Hex

/-- The digits of `n`, most significant first; zero has one digit. -/
def digits (n : Nat) : String :=
  String.ofList (Nat.toDigits 16 n)

/-- The digits of `n` with zeros in front, so that there are at least `width` of them. A longer
number is written in full. -/
def padded (width n : Nat) : String :=
  let ds := Nat.toDigits 16 n
  String.ofList (List.replicate (width - ds.length) '0' ++ ds)

end Chip8.Hex
