import Chip8.Display.Frame

set_option autoImplicit false
set_option relaxedAutoImplicit false

/-!
# Drawings

A display in a terminal does not write to the terminal itself. It asks a painter for drawings:
points on a canvas, inside a box with a title. What a painter does with a drawing is its own affair,
and it may fail.

## Main definitions

* `Chip8.Drawing` — a box with points on the canvas inside it.
* `Chip8.Frame.drawing` — the drawing of a frame.
* `Chip8.Area`, `Chip8.Cell` — the size of a terminal, and what a cell of it shows.
* `Chip8.Painter` — what a display asks of a painter.
-/

namespace Chip8

/-- The colours of points. -/
inductive Colour where
  | black
  | white
  deriving DecidableEq, Repr, Inhabited

/-- Points of one colour on a canvas. -/
structure Points where
  /-- The colour. -/
  colour : Colour
  /-- The points, by their coordinates. -/
  coords : List (Int × Int)
  deriving DecidableEq, Repr

/-- A canvas in a black box, which has an edge on each side and lies at the top left of the
terminal. The canvas shows a part of the plane whose second axis points upwards, and every point on
it is shown as a block. -/
structure Drawing where
  /-- The title, in the upper edge of the box. -/
  title : String
  /-- The number of columns of the box, edges included. -/
  columns : UInt16
  /-- The number of rows of the box, edges included. -/
  rows : UInt16
  /-- The left bound of the canvas. -/
  left : Int
  /-- The right bound of the canvas. -/
  right : Int
  /-- The lower bound of the canvas. -/
  bottom : Int
  /-- The upper bound of the canvas. -/
  top : Int
  /-- What is painted on the canvas, the first points first. -/
  points : List Points
  deriving DecidableEq, Repr

/-- The drawing of a frame. Pixel `(x, y)` is the point `(x, -y)`; first those are painted that are
unlit, then those that are lit. The size of the box is a sum of words of 16 bits, which wraps. -/
def Frame.drawing (f : Frame) : Drawing where
  title := "CHIP-8"
  columns := 2 + UInt16.ofNat f.width
  rows := 2 + UInt16.ofNat f.height
  left := 0
  right := f.width - 1
  bottom := -(f.height - 1)
  top := 0
  points := [⟨.black, f.plane false⟩, ⟨.white, f.plane true⟩]

/-- The size of a terminal. -/
structure Area where
  /-- The number of columns. -/
  columns : Nat
  /-- The number of rows. -/
  rows : Nat
  deriving DecidableEq, Repr

/-- What a cell of a terminal shows. -/
inductive Cell where
  /-- Nothing. -/
  | blank
  /-- A character. -/
  | glyph (char : Char)
  /-- A block. -/
  | block (colour : Colour)
  deriving DecidableEq, Repr, Inhabited

/-- A painter, as a display sees it: something of type `τ` that has a terminal and writes drawings
to it. -/
class Painter (τ : Type) where
  /-- Takes hold of a terminal that has the given size. -/
  attach : Area → Except Fault τ
  /-- Clears the terminal. -/
  clear : Action τ Unit
  /-- Writes a drawing to the terminal. -/
  draw : Drawing → Action τ Unit

end Chip8
