import Mathlib.Tactic.Lemma
import Chip8.Display.Terminal
import Chip8.Proofs.Display.Packed

set_option autoImplicit false
set_option relaxedAutoImplicit false

/-!
# What is expected of painters

A display knows nothing of its painter but the answers to its requests. What the terminal shows in
the end depends on what can be relied on there: that a drawing which the painter reports as written
is seen, as long as nobody else touches the terminal, and that a canvas with one cell for each of
its points shows each point in its own cell. Nothing is expected of what a drawing that fails leaves
behind.

## Main definitions

* `Chip8.Drawing.Grid`, `Chip8.Drawing.colour?` — a canvas with one cell for each point, and the
  colour in which a point is seen.
* `Chip8.Painter.Visible`, `Chip8.Painter.Faithful` — what is seen of a painter, and what is
  expected of it.
* `Chip8.Painter.Seen` — a drawing is seen in the terminal.
* `Chip8.Painter.Resizable`, `Chip8.Painter.Observant` — the same where the terminal may be given
  another size.

## Main results

* `Chip8.Frame.grid_drawing`, `Chip8.Frame.colour?_drawing` — the drawing of a frame has a cell for
  each pixel, and there the colour of the pixel.
-/

namespace Chip8

/-! ## Canvases with a cell for each point -/

namespace Drawing

/-- The canvas has a cell for each point `(x, -y)` with `x` below `width` and `y` below `height`. -/
structure Grid (width height : Nat) (d : Drawing) : Prop where
  /-- The box is as wide as the canvas with an edge on both sides. -/
  columns_eq : d.columns.toNat = width + 2
  /-- It is as high as the canvas with an edge above and below. -/
  rows_eq : d.rows.toNat = height + 2
  /-- The first column of the canvas is that of the number zero. -/
  left_eq : d.left = 0
  /-- The last one is that of the number `width - 1`. -/
  right_eq : d.right = width - 1
  /-- The first row is that of the number zero. -/
  top_eq : d.top = 0
  /-- The last one is that of the number `-(height - 1)`. -/
  bottom_eq : d.bottom = -(height - 1)

/-- The colour in which a point has been painted last. -/
def colour? (d : Drawing) (point : Int × Int) : Option Colour :=
  (d.points.reverse.find? (point ∈ ·.coords)).map (·.colour)

end Drawing

namespace Frame

variable {f : Frame} {x y : Nat}

/-- The colour of a pixel. -/
def colourOf (lit : Bool) : Colour := if lit then .white else .black

/-- The drawing of a frame has a cell for each pixel if its size fits into words. -/
lemma grid_drawing (h : (f.width + 2) * (f.height + 2) ≤ 65535) :
    f.drawing.Grid f.width f.height := by
  have hwidth : f.width + 2 ≤ 65535 :=
    Nat.le_trans (Nat.le_mul_of_pos_right _ (Nat.succ_pos _)) h
  have hheight : f.height + 2 ≤ 65535 :=
    Nat.le_trans (Nat.le_mul_of_pos_left _ (Nat.succ_pos _)) h
  have hsum {n : Nat} (hn : n + 2 ≤ 65535) : (2 + UInt16.ofNat n).toNat = n + 2 := by
    rw [UInt16.toNat_add, UInt16.toNat_ofNat']
    change (2 + n % 65536) % 65536 = n + 2
    omega
  exact ⟨hsum hwidth, hsum hheight, rfl, rfl, rfl, rfl⟩

/-- **A pixel is seen in its own colour**: it is in one of the two planes, and not in the other. -/
lemma colour?_drawing (hx : x < f.width) (hy : y < f.height) :
    f.drawing.colour? (x, -y) = some (colourOf (f.get x y)) := by
  have hmem (lit : Bool) : ((x : Int), -(y : Int)) ∈ f.plane lit ↔ f.get x y = lit :=
    mem_plane hx hy
  rw [Drawing.colour?, drawing]
  cases hlit : f.get x y <;> simp [hmem, hlit, colourOf]

end Frame

/-! ## Terminals that keep their size -/

namespace Painter

/-- What is seen of a painter and its terminal. -/
class Visible (τ : Type) extends Painter τ where
  /-- The area of the terminal. -/
  area : τ → Area
  /-- What the cell of the terminal at column `x` and row `y` shows. -/
  cell : τ → (x y : Nat) → Cell
  /-- What a drawing puts into the cell at column `x` and row `y` of a terminal that has the given
  area. It may leave a cell alone. -/
  content : Drawing → Area → (x y : Nat) → Option Cell
  /-- The terminal shows what the painter has written there, and the painter is ready to draw. -/
  Intact : τ → Prop

export Visible (area cell content Intact)

/-- The drawing is seen in the terminal. -/
def Seen {τ : Type} [Visible τ] (d : Drawing) (p : τ) : Prop :=
  ∀ x y c, content τ d (area p) x y = some c → cell p x y = c

/-- What is expected of a painter whose terminal is left alone. -/
class Faithful (τ : Type) [Visible τ] : Prop where
  /-- Drawing does not change the size of the terminal. -/
  area_draw : ∀ (d : Drawing) (p : τ), area (draw d p).state = area p
  /-- A terminal that the painter has taken hold of is intact when it has been cleared, -/
  intact_clear : ∀ {a : Area} {p : τ}, attach a = .ok p → (clear p).result = .ok () →
    Intact (clear p).state
  /-- and it stays so when a drawing has been written. -/
  intact_draw : ∀ {d : Drawing} {p : τ}, Intact p → (draw d p).result = .ok () →
    Intact (draw d p).state
  /-- The drawing is seen then. -/
  seen_draw : ∀ {d : Drawing} {p : τ}, Intact p → (draw d p).result = .ok () →
    Seen d (draw d p).state
  /-- A canvas with a cell for each point has the point `(x, -y)` in column `x` and row `y`, one
  to the right and one down for the edge of the box. -/
  content_point : ∀ {d : Drawing} {a : Area} {width height x y : Nat} {colour : Colour},
    d.Grid width height → 2 ≤ width → 2 ≤ height → (width + 2) * (height + 2) ≤ 65535 →
    width + 2 ≤ a.columns → height + 2 ≤ a.rows → x < width → y < height →
    d.colour? (x, -y) = some colour → content τ d a (x + 1) (y + 1) = some (.block colour)

/-! ## Terminals that are resized -/

/-- What is seen of a painter whose terminal may be given another size. -/
class Resizable (τ : Type) extends Visible τ where
  /-- The terminal has been given another size, and the painter was not told. -/
  resize : τ → Area → τ
  /-- The area that the painter believes the terminal to have. -/
  known : τ → Area

export Resizable (resize known)

/-- What is expected of a painter besides if its terminal may be given another size: when it draws,
it looks whether the terminal has the area that it knows, and otherwise clears it before. -/
class Observant (τ : Type) [Resizable τ] : Prop extends Faithful τ where
  /-- The painter knows the area of a terminal that it has taken hold of and cleared, -/
  known_clear : ∀ {a : Area} {p : τ}, attach a = .ok p → (clear p).result = .ok () →
    known (clear p).state = area (clear p).state
  /-- knows it when it has drawn, -/
  known_draw : ∀ {d : Drawing} {p : τ}, (draw d p).result = .ok () →
    known (draw d p).state = area p
  /-- and has learnt it or not when that has failed. -/
  known_draw_or : ∀ (d : Drawing) (p : τ),
    known (draw d p).state = known p ∨ known (draw d p).state = area p
  /-- A terminal that has been cleared shows nothing. -/
  cell_clear : ∀ {p : τ}, (clear p).result = .ok () → ∀ x y, cell (clear p).state x y = .blank
  /-- A terminal that has another area than the painter knows is intact when a drawing has been
  written, -/
  intact_draw_of_ne : ∀ {d : Drawing} {p : τ}, area p ≠ known p → (draw d p).result = .ok () →
    Intact (draw d p).state
  /-- and the drawing is seen then. -/
  seen_draw_of_ne : ∀ {d : Drawing} {p : τ}, area p ≠ known p → (draw d p).result = .ok () →
    Seen d (draw d p).state
  /-- The painter does not notice that the terminal is given another size. -/
  known_resize : ∀ (p : τ) (a : Area), known (resize p a) = known p
  /-- The terminal is blank afterwards. -/
  cell_resize : ∀ (p : τ) (a : Area) (x y : Nat), cell (resize p a) x y = .blank
  /-- If it was blank before, nothing is lost. -/
  intact_resize : ∀ {p : τ} (a : Area), Intact p → (∀ x y, cell p x y = .blank) →
    Intact (resize p a)

end Painter

end Chip8
