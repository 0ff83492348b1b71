set_option autoImplicit false
set_option relaxedAutoImplicit false

/-!
# Canvases

A canvas is a part of the plane that is shown by a grid of cells: the points on its left edge fall
into the first column and those on its right edge into the last, and so on for top and bottom.

## Main definitions

* `Chip8.Canvas` — the part of the plane and the size of the grid.
* `Chip8.Canvas.cellOf` — the cell that a point falls into.
* `Chip8.Canvas.paint` — points painted into the cells.
-/

namespace Chip8

/-- A part of the plane, shown by a grid of cells. The second axis points upwards. -/
structure Canvas where
  /-- The left edge. -/
  left : Int
  /-- The right edge. -/
  right : Int
  /-- The lower edge. -/
  bottom : Int
  /-- The upper edge. -/
  top : Int
  /-- The number of columns of the grid. -/
  columns : Nat
  /-- The number of rows of the grid. -/
  rows : Nat
  deriving DecidableEq, Repr

namespace Canvas

/-- The column and the row of the cell that a point falls into. A point outside the edges falls
into none, and neither does any point when two opposite edges coincide, for then nothing tells the
cells between them apart. -/
def cellOf (c : Canvas) (x y : Int) : Option (Nat × Nat) :=
  if x < c.left || c.right < x || y < c.bottom || c.top < y then none
  else if c.left == c.right || c.bottom == c.top then none
  else
    some (((x - c.left) * (c.columns - 1) / (c.right - c.left)).toNat,
      ((c.top - y) * (c.rows - 1) / (c.top - c.bottom)).toNat)

/-- The cells of the grid, row by row, with what is painted in them. -/
abbrev Layer (c : Canvas) (α : Type) := Vector (Option α) (c.columns * c.rows)

/-- The grid with nothing painted in it. -/
def empty (c : Canvas) (α : Type) : c.Layer α := Vector.replicate _ none

/-- The grid with one more point painted. -/
def paintPoint (c : Canvas) {α : Type} (colour : α) (layer : c.Layer α) (point : Int × Int) :
    c.Layer α :=
  match c.cellOf point.1 point.2 with
  | some (x, y) => layer.setIfInBounds (y * c.columns + x) (some colour)
  | none => layer

/-- The grid with more points painted, over those that are there. -/
def paint (c : Canvas) {α : Type} (colour : α) (points : List (Int × Int)) (layer : c.Layer α) :
    c.Layer α :=
  points.foldl (c.paintPoint colour) layer

end Canvas

end Chip8
