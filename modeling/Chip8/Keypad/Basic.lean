import Chip8.Action
import Chip8.Keypad.Key

set_option autoImplicit false
set_option relaxedAutoImplicit false

/-!
# Keypads

## Main definitions

* `Chip8.Keypad` — what the machine asks of a keypad.
-/

namespace Chip8

/-- A keypad, as the machine sees it: something of type `δ` with keys that are down or up. -/
class Keypad (δ : Type) where
  /-- The key with this number is down. There are sixteen keys, and no other number is ever
  down. -/
  isPressed : δ → UInt8 → Bool
  /-- The newest press that has not been taken yet, which is taken by this. -/
  takePressed : δ → Option Key × δ
  /-- Picks up what has happened to the keys. -/
  poll : Action δ Unit
  /-- The user wants to leave. The answer depends on the keypad as it is, and asking changes nothing:
  a keypad that answers by how often it has been asked is left out. -/
  quitRequested : δ → Bool

end Chip8
