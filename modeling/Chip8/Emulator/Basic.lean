import Chip8.Emulator.Canvas
import Chip8.Emulator.Screen

set_option autoImplicit false
set_option relaxedAutoImplicit false

/-!
# Emulated terminals

A terminal that is a grid of cells and nothing more, with a painter that writes no more than it has
to: only the cells that differ from what it has written before. A terminal whose area has changed
since then is cleared first and written anew.

## Main definitions

* `Chip8.Drawing.picture` — a drawing as a screen.
* `Chip8.Emulator` — what the terminal shows and what was written to it last.
* `Chip8.Emulator.draw` — writes a drawing.
-/

namespace Chip8

namespace Drawing

/-- The box of a drawing. Where it would have too many cells it is shrunk, and neighbouring points
share a cell. -/
def box (d : Drawing) : Area := Area.fit ⟨d.columns.toNat, d.rows.toNat⟩

/-- The canvas inside the box. -/
def canvas (d : Drawing) : Canvas :=
  ⟨d.left, d.right, d.bottom, d.top, d.box.columns - 2, d.box.rows - 2⟩

/-- The points painted on the canvas. -/
def painted (d : Drawing) : d.canvas.Layer Colour :=
  d.points.foldl (fun layer p => d.canvas.paint p.colour p.coords layer) (d.canvas.empty Colour)

/-- The upper edge of the box behind its first corner, at column `x` from there. The title is cut to
the inner width. -/
def topEdge (d : Drawing) (x : Nat) : Char :=
  (d.title.toList.take d.canvas.columns).getD x '─'

/-- The cell of the box at column `x` and row `y`, where the layer holds what is painted inside
it. -/
def boxCell (d : Drawing) (layer : d.canvas.Layer Colour) (x y : Nat) : Cell :=
  if d.box.columns ≤ x || d.box.rows ≤ y then .blank
  else if y = 0 then
    .glyph (if x = 0 then '┌' else if x + 1 = d.box.columns then '┐' else d.topEdge (x - 1))
  else if y + 1 = d.box.rows then
    .glyph (if x = 0 then '└' else if x + 1 = d.box.columns then '┘' else '─')
  else if x = 0 || x + 1 = d.box.columns then .glyph '│'
  else
    match layer[(y - 1) * d.canvas.columns + (x - 1)]? with
    | some (some colour) => .block colour
    | _ => .blank

/-- The drawing at the top left of a screen of the given size. -/
def picture (d : Drawing) (a : Area) : Screen :=
  let layer := d.painted
  Screen.tabulate a.columns a.rows (d.boxCell layer)

end Drawing

/-- An emulated terminal. The drawings for whose number, counted from one on, `failing` holds are
not written. -/
structure Emulator (failing : Nat → Bool) where
  /-- What the terminal shows. Its size is the size of the terminal. -/
  screen : Screen
  /-- What was written last. -/
  drawn : Screen
  /-- The area that the terminal had then. -/
  known : Area
  /-- How many drawings have been asked for. -/
  draws : Nat
  deriving DecidableEq

namespace Emulator

variable {failing : Nat → Bool}

/-- The terminal of the given size that shows nothing. -/
def ofArea (a : Area) : Emulator failing := ⟨.blank a, .blank a, a.fit, 0⟩

/-- The area of the terminal. -/
def area (e : Emulator failing) : Area := e.screen.size.fit

/-- The terminal has been given another size, which clears it. -/
def resize (e : Emulator failing) (a : Area) : Emulator failing := { e with screen := .blank a }

/-- The terminal showing nothing. -/
def cleared (e : Emulator failing) : Emulator failing :=
  { e with screen := .blank e.screen.size, drawn := .blank e.screen.size }

/-- The terminal, cleared if its area is another than the last time. -/
def refit (e : Emulator failing) : Emulator failing :=
  if e.area = e.known then e else { e.cleared with known := e.area }

/-- Writes a drawing, or fails. -/
def draw (d : Drawing) : Action (Emulator failing) Unit := fun e =>
  let e := { e.refit with draws := e.draws + 1 }
  if failing e.draws then ⟨e, .error (.device "terminal lost"), []⟩
  else
    let picture := d.picture e.area
    ⟨{ e with screen := e.screen.redraw e.drawn picture, drawn := picture }, .ok (), []⟩

instance : Painter (Emulator failing) where
  attach a := .ok (ofArea a)
  clear := .modify cleared
  draw := draw

end Emulator

end Chip8
