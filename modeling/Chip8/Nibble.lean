set_option autoImplicit false
set_option relaxedAutoImplicit false

/-!
# Nibbles

Registers and keys are named by one hexadecimal digit, that is by four bits.

## Main definitions

* `Chip8.Nibble` — the numbers of four bits.
* `Chip8.nibble` — the last four bits of a number.
-/

namespace Chip8

/-- A number of four bits. -/
abbrev Nibble := Fin 16

/-- The last four bits of a number. -/
def nibble (n : Nat) : Nibble :=
  ⟨n % 16, Nat.mod_lt n (by decide)⟩

end Chip8
