import Chip8.Display.Drawing

set_option autoImplicit false
set_option relaxedAutoImplicit false

/-!
# Screens

What an emulated terminal shows: a grid of cells. The cells of an area are numbered by 16-bit words,
so there is a largest number of them, and an area that would have more is shrunk.

## Main definitions

* `Chip8.Area.fit` — the area nearest to a given size.
* `Chip8.Screen` — a grid of cells.
* `Chip8.Screen.redraw` — a screen after some of its cells have been written.
* `Chip8.Screen.lines` — a screen as text.
-/

namespace Chip8

namespace Area

/-- The largest number of cells. -/
def maxCells : Nat := 65535

/-- The area of the given size. If that has too many cells, it is shrunk until it has at most the
largest number of them; the proportions stay the same but for parts of cells, which are
dropped. -/
def fit (a : Area) : Area :=
  if a.columns * a.rows ≤ maxCells then a
  else
    let ratio := a.columns.toFloat / a.rows.toFloat
    let height := (maxCells.toFloat / ratio).sqrt
    ⟨min a.columns (height * ratio).toUInt16.toNat, min a.rows height.toUInt16.toNat⟩

end Area

/-- The character that stands for a cell in a text. -/
def Cell.char : Cell → Char
  | blank => ' '
  | glyph char => char
  | block .white => '#'
  | block .black => '.'

/-- A grid of cells. -/
structure Screen where
  /-- The number of columns. -/
  columns : Nat
  /-- The number of rows. -/
  rows : Nat
  /-- The cells, row by row. -/
  cells : Vector (Vector Cell columns) rows
  deriving DecidableEq, Repr

namespace Screen

/-- The screen with given cells, by column and row. -/
def tabulate (columns rows : Nat) (f : (x y : Nat) → Cell) : Screen :=
  ⟨columns, rows, Vector.ofFn fun y => Vector.ofFn fun x => f x.val y.val⟩

/-- The screen that shows nothing. -/
def blank (a : Area) : Screen := tabulate a.columns a.rows fun _ _ => .blank

/-- The cell at column `x` and row `y`; outside the screen there is nothing to see. -/
def get (s : Screen) (x y : Nat) : Cell :=
  if h : x < s.columns ∧ y < s.rows then (s.cells.get ⟨y, h.2⟩).get ⟨x, h.1⟩ else .blank

/-- The size of the screen. -/
def size (s : Screen) : Area := ⟨s.columns, s.rows⟩

/-- The screen `shown` after the cells in which `picture` differs from `drawn` have been
written. -/
def redraw (shown drawn picture : Screen) : Screen :=
  tabulate shown.columns shown.rows fun x y =>
    if picture.get x y = drawn.get x y then shown.get x y else picture.get x y

/-- A row of cells as text, without the blanks at its end. -/
def lineOf (cells : List Cell) : String :=
  String.ofList ((cells.map Cell.char).reverse.dropWhile (· == ' ')).reverse

/-- The rows of the screen as text. -/
def lines (s : Screen) : List String :=
  s.cells.toList.map fun row => lineOf row.toList

end Screen

end Chip8
