import Chip8.Action

set_option autoImplicit false
set_option relaxedAutoImplicit false

/-!
# Speakers

## Main definitions

* `Chip8.Speaker` — what the machine asks of a speaker.
* `Chip8.Silent` — the speaker that makes no sound.
-/

namespace Chip8

/-- A speaker, as the machine sees it: something of type `δ` that makes one tone or none. -/
class Speaker (δ : Type) where
  /-- Makes the tone. -/
  beep : Action δ Unit
  /-- Makes no tone. -/
  silence : Action δ Unit

/-- A speaker that makes no sound and never fails. -/
structure Silent where
  deriving DecidableEq, Repr

instance : Speaker Silent where
  beep := pure ()
  silence := pure ()

end Chip8
