import Mathlib.Tactic.Lemma
import Chip8.Emulator.Basic
import Chip8.Proofs.Display.Painter

set_option autoImplicit false
set_option relaxedAutoImplicit false

/-!
# The picture of a drawing

An emulated terminal shows a drawing as cells of a screen. Where the canvas has one cell for each of
its points, each point has a cell of its own in the picture, in the colour in which it has been
painted last.

## Main definitions

* `Chip8.Canvas.index?` — the number of the cell that a point falls into.

## Main results

* `Chip8.Screen.get_redraw_of_eq` — a screen that shows what was drawn shows the picture once the
  cells that differ have been written.
* `Chip8.Canvas.getElem?_paint` — painting changes the cells that the points fall into.
* `Chip8.Drawing.Grid.index?_eq_some_iff` — one point falls into each cell.
* `Chip8.Drawing.Grid.get_picture` — the cell of a point in the picture.
-/

namespace Chip8

/-! ## Screens -/

namespace Screen

variable {columns rows x y : Nat} {s shown drawn picture : Screen} {f : Nat → Nat → Cell}

lemma get_of_lt (hx : x < s.columns) (hy : y < s.rows) : s.get x y = s.cells[y][x] := by
  rw [get, dif_pos ⟨hx, hy⟩]
  rfl

/-- Outside the screen there is nothing to see. -/
lemma get_of_not_lt (h : ¬(x < s.columns ∧ y < s.rows)) : s.get x y = .blank := by
  rw [get, dif_neg h]

lemma get_tabulate : (tabulate columns rows f).get x y =
    if x < columns ∧ y < rows then f x y else .blank := by
  split
  · next h =>
    rw [get_of_lt (by exact h.1) (by exact h.2)]
    simp [tabulate]
  · next h => exact get_of_not_lt h

@[simp]
lemma get_blank (a : Area) : (blank a).get x y = .blank := by
  rw [blank, get_tabulate, ite_self]

/-- **A screen that shows what was drawn shows the picture** once the cells that differ have been
written, if the picture is no larger than the screen. -/
lemma get_redraw_of_eq (hcolumns : picture.columns ≤ shown.columns)
    (hrows : picture.rows ≤ shown.rows) (hshown : ∀ x y, shown.get x y = drawn.get x y)
    (x y : Nat) : (shown.redraw drawn picture).get x y = picture.get x y := by
  rw [redraw, get_tabulate]
  by_cases hin : x < shown.columns ∧ y < shown.rows
  · rw [if_pos hin, hshown]
    split
    · next hsame => exact hsame.symm
    · rfl
  · rw [if_neg hin, get_of_not_lt (by omega)]

end Screen

namespace Area

/-- An area that has few enough cells is not shrunk. -/
lemma fit_eq {a : Area} (h : a.columns * a.rows ≤ 65535) : a.fit = a := if_pos h

lemma fit_le (a : Area) : a.fit.columns ≤ a.columns ∧ a.fit.rows ≤ a.rows := by
  rw [fit]
  split
  · exact ⟨Nat.le_refl _, Nat.le_refl _⟩
  · exact ⟨Nat.min_le_left _ _, Nat.min_le_left _ _⟩

end Area

/-! ## Painting -/

namespace Canvas

variable {c : Canvas} {α : Type} {k : Nat}

/-- The number of the cell that a point falls into. -/
def index? (c : Canvas) (point : Int × Int) : Option Nat :=
  (c.cellOf point.1 point.2).map fun cell => cell.2 * c.columns + cell.1

lemma getElem?_paintPoint (colour : α) (layer : c.Layer α) (point : Int × Int)
    (hk : k < c.columns * c.rows) : (c.paintPoint colour layer point)[k]? =
      if c.index? point = some k then some (some colour) else layer[k]? := by
  rw [paintPoint, index?]
  cases c.cellOf point.1 point.2 with
  | none => simp
  | some cell =>
    have hset : (layer.setIfInBounds (cell.2 * c.columns + cell.1) (some colour))[k]? =
        if cell.2 * c.columns + cell.1 = k then some (some colour) else layer[k]? := by
      rw [Vector.getElem?_setIfInBounds]
      split
      · next hcell => rw [if_pos (hcell ▸ hk)]
      · rfl
    simpa using hset

/-- **Painting changes the cells that the points fall into**, and no others. -/
theorem getElem?_paint (colour : α) (points : List (Int × Int)) (layer : c.Layer α)
    (hk : k < c.columns * c.rows) : (c.paint colour points layer)[k]? =
      if some k ∈ points.map c.index? then some (some colour) else layer[k]? := by
  induction points generalizing layer with
  | nil => simp [paint]
  | cons point rest ih =>
    have hpaint : c.paint colour (point :: rest) layer =
      c.paint colour rest (c.paintPoint colour layer point) := rfl
    rw [hpaint, ih, getElem?_paintPoint colour layer point hk]
    simp only [List.map_cons, List.mem_cons, eq_comm]
    by_cases hrest : some k ∈ rest.map c.index? <;> simp [hrest]

end Canvas

/-! ## Canvases with a cell for each point -/

namespace Drawing

variable {d : Drawing} {a : Area} {width height k x y : Nat} {colour : Colour}

/-- If one point falls into a cell, the cell has the colour in which that has been painted last. -/
lemma getElem?_painted {point : Int × Int} (hk : k < d.canvas.columns * d.canvas.rows)
    (hindex : ∀ p, d.canvas.index? p = some k ↔ p = point) :
    d.painted[k]? = some (d.colour? point) := by
  rw [painted, colour?]
  induction d.points using List.reverseRecOn with
  | nil =>
    rw [List.foldl_nil, Canvas.empty, Vector.getElem?_replicate, if_pos hk]
    rfl
  | append_singleton points last ih =>
    have hmem : some k ∈ last.coords.map d.canvas.index? ↔ point ∈ last.coords := by
      simp [hindex]
    rw [List.foldl_append, List.foldl_cons, List.foldl_nil, Canvas.getElem?_paint _ _ _ hk, ih,
      List.reverse_append, List.reverse_singleton, List.singleton_append, List.find?_cons]
    by_cases hlast : point ∈ last.coords <;> simp [hmem, hlast]

namespace Grid

/-- The box is as large as the canvas with its edges. -/
lemma box_eq (h : d.Grid width height) (hbox : (width + 2) * (height + 2) ≤ 65535) :
    d.box = ⟨width + 2, height + 2⟩ := by
  rw [box, h.columns_eq, h.rows_eq]
  exact Area.fit_eq hbox

lemma canvas_eq (h : d.Grid width height) (hbox : (width + 2) * (height + 2) ≤ 65535) :
    d.canvas = ⟨0, width - 1, -(height - 1), 0, width, height⟩ := by
  rw [canvas, h.box_eq hbox, h.left_eq, h.right_eq, h.bottom_eq, h.top_eq]
  rfl

/-- A point falls into the cell at its own column and row, if there are two of each: a single column
or row has no extent, and nothing falls into it. -/
lemma cellOf_eq (h : d.Grid width height) (hw : 2 ≤ width) (hh : 2 ≤ height)
    (hbox : (width + 2) * (height + 2) ≤ 65535) (p q : Int) :
    d.canvas.cellOf p q = if (0 ≤ p ∧ p < width) ∧ -height < q ∧ q ≤ 0 then
      some (p.toNat, (-q).toNat) else none := by
  have hcolumn : (p - 0) * ((width : Int) - 1) / (width - 1 - 0) = p := by
    rw [Int.sub_zero, Int.sub_zero]
    exact Int.mul_ediv_cancel _ (by omega)
  have hrow : (0 - q) * ((height : Int) - 1) / (0 - -(height - 1)) = -q := by
    rw [Int.zero_sub, Int.zero_sub, Int.neg_neg]
    exact Int.mul_ediv_cancel _ (by omega)
  have hedges : ¬(((0 : Int) == width - 1 || (-((height : Int) - 1)) == 0) = true) := by
    simp only [Bool.or_eq_true, beq_iff_eq]
    omega
  rw [h.canvas_eq hbox, Canvas.cellOf]
  dsimp only
  rw [if_neg hedges, hcolumn, hrow]
  by_cases hin : (0 ≤ p ∧ p < width) ∧ -height < q ∧ q ≤ 0
  · rw [if_pos hin, if_neg (by simp; omega)]
  · rw [if_neg hin, if_pos (by simp; omega)]

/-- **One point falls into each cell.** -/
lemma index?_eq_some_iff (h : d.Grid width height) (hw : 2 ≤ width) (hh : 2 ≤ height)
    (hbox : (width + 2) * (height + 2) ≤ 65535) (hx : x < width) (hy : y < height)
    (point : Int × Int) :
    d.canvas.index? point = some (y * width + x) ↔ point = ((x : Int), -(y : Int)) := by
  obtain ⟨p, q⟩ := point
  have hcolumns : d.canvas.columns = width := by rw [h.canvas_eq hbox]
  rw [Canvas.index?, h.cellOf_eq hw hh hbox, hcolumns, Prod.mk.injEq]
  constructor
  · intro hindex
    split at hindex
    · next hin =>
      obtain ⟨⟨hp, hp'⟩, hq, hq'⟩ := hin
      rw [Option.map_some, Option.some_inj] at hindex
      dsimp only at hindex
      have hp'' : p.toNat < width := by omega
      -- column and row are remainder and quotient of the number
      have hcolumn : p.toNat = x := by
        have hmod := congrArg (· % width) hindex
        simpa [Nat.mod_eq_of_lt, hx, hp''] using hmod
      have hrow : (-q).toNat = y := by
        rw [hcolumn] at hindex
        exact Nat.eq_of_mul_eq_mul_right (by omega) (Nat.add_right_cancel hindex)
      omega
    · cases hindex
  · rintro ⟨rfl, rfl⟩
    rw [if_pos (by omega)]
    simp

/-- **The cell of a point in the picture**: it is one to the right and one down, for the edge of
the box. -/
theorem get_picture (h : d.Grid width height) (hw : 2 ≤ width) (hh : 2 ≤ height)
    (hbox : (width + 2) * (height + 2) ≤ 65535) (hcolumns : width + 2 ≤ a.columns)
    (hrows : height + 2 ≤ a.rows) (hx : x < width) (hy : y < height)
    (hcolour : d.colour? (x, -y) = some colour) :
    (d.picture a).get (x + 1) (y + 1) = .block colour := by
  have hcanvas := h.canvas_eq hbox
  have hcell : y * width + x < width * height := by
    have hrow := Nat.mul_le_mul_right width (show y + 1 ≤ height from hy)
    rw [Nat.add_mul, Nat.one_mul, Nat.mul_comm height] at hrow
    omega
  have hpainted : d.painted[y * width + x]? = some (some colour) := by
    rw [← hcolour]
    exact getElem?_painted (by rw [hcanvas]; exact hcell) (h.index?_eq_some_iff hw hh hbox hx hy)
  have hnumber : y * d.canvas.columns + x = y * width + x := by rw [hcanvas]
  rw [picture, Screen.get_tabulate, if_pos (by omega), boxCell, h.box_eq hbox]
  simp only [Nat.add_sub_cancel, hnumber, hpainted]
  rw [if_neg (by simp; omega), if_neg (by omega), if_neg (by omega), if_neg (by simp; omega)]

end Grid

end Drawing

end Chip8
