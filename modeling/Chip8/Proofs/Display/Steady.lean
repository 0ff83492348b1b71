import Chip8.Proofs.Display.Sprite
import Chip8.Proofs.Keeps

set_option autoImplicit false
set_option relaxedAutoImplicit false

/-!
# Displays that can be shown

To show a picture takes the mark for a change off it and leaves its pixels alone, so that a program
that does not draw keeps its picture however often it is shown.

## Main definitions

* `Chip8.Steady` — displays whose picture stays when it is shown.
-/

namespace Chip8

open Framed (frame)

/-- A display with a frame that stays as it is when it is shown, but for the mark for a change. -/
class Steady (D : Type) [Display D] extends Framed D where
  present_eq : Action.Keeps (fun d => (frame d).takeDirty.2) Display.present

instance : Steady Frame where
  present_eq _ := rfl

instance : Steady Scripted.Screen where
  present_eq _ := rfl

/-- Whether the painter writes the drawing or fails, the frame of a terminal loses its mark and
nothing else. -/
instance {τ : Type} [Painter τ] : Steady (Terminal τ) where
  present_eq t := by
    obtain ⟨⟨width, height, hw, hh, bytes, dirty⟩, p⟩ := t
    cases dirty <;> rfl

end Chip8
