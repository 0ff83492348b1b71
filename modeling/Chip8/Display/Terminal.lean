import Chip8.Display.Drawing

set_option autoImplicit false
set_option relaxedAutoImplicit false

/-!
# Terminals

A display that shows its frame in a terminal, one cell a pixel, in a box with a title. It asks its
painter for a drawing only when the frame has changed, and takes the mark for a change off the frame
before it knows whether the painter succeeds.

## Main definitions

* `Chip8.Terminal` — a frame, and a painter that has a terminal.
* `Chip8.Terminal.present` — shows the frame.
-/

namespace Chip8

/-- A display in a terminal that belongs to a painter. -/
structure Terminal (τ : Type) where
  /-- The frame. -/
  frame : Frame
  /-- The painter with its terminal. -/
  painter : τ

namespace Terminal

variable {τ : Type} [Painter τ]

/-- A display of the given size in a terminal that has the size `area` and is cleared. It fails when
the display has no pixels, or when the painter fails. -/
def create (width height : Nat) (area : Area) : Except Fault (Terminal τ) := do
  let frame ← Frame.create width height
  let painter ← Painter.attach area
  let cleared := Painter.clear painter
  let _ ← cleared.result
  return ⟨frame, cleared.state⟩

/-- Asks the painter for a drawing of the frame. -/
def redraw : Action (Terminal τ) Unit := fun t =>
  (Painter.draw t.frame.drawing).zoom painter (fun p t => { t with painter := p }) t

/-- Shows the frame if it has changed. -/
def present : Action (Terminal τ) Unit := fun t =>
  let (dirty, frame) := t.frame.takeDirty
  let t := { t with frame := frame }
  if dirty then redraw t else ⟨t, .ok (), []⟩

instance : Display (Terminal τ) where
  clear t := { t with frame := t.frame.clear }
  draw t x y bit :=
    let (hit, frame) := t.frame.draw x y bit
    (hit, { t with frame := frame })
  present := present

end Terminal

end Chip8
