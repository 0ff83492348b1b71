import Chip8.Action

set_option autoImplicit false
set_option relaxedAutoImplicit false

/-!
# Displays

## Main definitions

* `Chip8.Display` — what the machine asks of a display.
-/

namespace Chip8

/-- A display, as the machine sees it: something of type `δ` that holds a picture. -/
class Display (δ : Type) where
  /-- Turns every pixel off. -/
  clear : δ → δ
  /-- Inverts the pixel at column `x` and row `y` if `bit` is set, and tells whether that turned a
  lit pixel off. -/
  draw : δ → (x y : Nat) → (bit : Bool) → Bool × δ
  /-- Shows the picture as it is now. -/
  present : Action δ Unit

end Chip8
