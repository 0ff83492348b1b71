import Mathlib.Tactic.Lemma
import Chip8.Proofs.Emulator.Picture

set_option autoImplicit false
set_option relaxedAutoImplicit false

/-!
# Emulated terminals are observant

An emulated terminal does all that is expected of a painter, whichever of its drawings fail: it
writes the cells that differ from the last drawing, and it starts anew where the terminal has
another area.

## Main definitions

* `Chip8.Emulator.Matches` — the terminal shows what was written last.

## Main results

* `Chip8.Emulator.draw_ok` — what a drawing that is written leaves behind.
* `Chip8.Emulator.matches_draw` — the terminal shows a drawing that has been written.
-/

namespace Chip8

namespace Emulator

variable {failing : Nat → Bool} {e : Emulator failing} {d : Drawing}

/-- The terminal shows what was written last. -/
def Matches (e : Emulator failing) : Prop := ∀ x y, e.screen.get x y = e.drawn.get x y

/-! ## Looking at the terminal -/

@[simp]
lemma area_refit (e : Emulator failing) : e.refit.area = e.area := by
  rw [refit]
  split <;> rfl

/-- The emulator knows the area once it has looked. -/
@[simp]
lemma known_refit (e : Emulator failing) : e.refit.known = e.area := by
  rw [refit]
  split
  · next hsame => exact hsame.symm
  · rfl

lemma matches_cleared (e : Emulator failing) : e.cleared.Matches := fun _ _ =>
  (Screen.get_blank _).trans (Screen.get_blank _).symm

/-- A terminal that has another area is cleared. -/
lemma matches_refit (h : e.Matches ∨ e.area ≠ e.known) : e.refit.Matches := by
  rw [refit]
  split
  · next hsame => exact h.resolve_right fun hne => hne hsame
  · exact e.matches_cleared

/-! ## Drawing -/

/-- Drawing, whether it fails or not, does not change the size of the terminal. -/
lemma area_draw (d : Drawing) (e : Emulator failing) : (draw d e).state.area = e.area := by
  rw [← area_refit e, draw]
  dsimp only
  split <;> rfl

lemma known_draw (d : Drawing) (e : Emulator failing) : (draw d e).state.known = e.area := by
  rw [← known_refit e, draw]
  dsimp only
  split <;> rfl

/-- **What a drawing that is written leaves behind**: the cells that differ have been written. -/
lemma draw_ok (hok : (draw d e).result = .ok ()) :
    (draw d e).state.screen = e.refit.screen.redraw e.refit.drawn (d.picture e.area) ∧
      (draw d e).state.drawn = d.picture e.area := by
  rw [← area_refit e]
  rw [draw] at hok ⊢
  dsimp only at hok ⊢
  split at hok
  · cases hok
  · rw [if_neg ‹_›]
    exact ⟨rfl, rfl⟩

/-- **The terminal shows a drawing that has been written**, if it showed the last one before or had
to be cleared. -/
lemma matches_draw (h : e.Matches ∨ e.area ≠ e.known) (hok : (draw d e).result = .ok ()) :
    (draw d e).state.Matches ∧
      ∀ x y, (draw d e).state.screen.get x y = (d.picture e.area).get x y := by
  obtain ⟨hscreen, hdrawn⟩ := draw_ok hok
  have hfit := e.refit.screen.size.fit_le
  have hsize : (d.picture e.area).columns ≤ e.refit.screen.columns ∧
      (d.picture e.area).rows ≤ e.refit.screen.rows := by
    rw [← area_refit e]
    exact hfit
  have hget (x y : Nat) :
      (draw d e).state.screen.get x y = (d.picture e.area).get x y := by
    rw [hscreen]
    exact Screen.get_redraw_of_eq hsize.1 hsize.2 (matches_refit h) x y
  exact ⟨fun x y => (hget x y).trans (by rw [hdrawn]), hget⟩

/-! ## As a painter -/

instance : Painter.Resizable (Emulator failing) where
  area := area
  cell e := e.screen.get
  content d a x y := some ((d.picture a).get x y)
  Intact := Matches
  resize := resize
  known := known

lemma seen_draw (h : e.Matches ∨ e.area ≠ e.known) (hok : (draw d e).result = .ok ()) :
    Painter.Seen d (draw d e).state := by
  intro x y c hcontent
  have hcell : (d.picture (draw d e).state.area).get x y = c := Option.some_inj.mp hcontent
  rw [area_draw] at hcell
  exact ((matches_draw h hok).2 x y).trans hcell

instance : Painter.Observant (Emulator failing) where
  area_draw := area_draw
  intact_clear _ _ := matches_cleared _
  intact_draw h hok := (matches_draw (Or.inl h) hok).1
  seen_draw h hok := seen_draw (Or.inl h) hok
  content_point hgrid hw hh hbox hcolumns hrows hx hy hcolour :=
    congrArg some (hgrid.get_picture hw hh hbox hcolumns hrows hx hy hcolour)
  known_clear hattach _ := by
    cases hattach
    rfl
  known_draw _ := known_draw _ _
  known_draw_or d e := Or.inr (known_draw d e)
  cell_clear _ _ _ := Screen.get_blank _
  intact_draw_of_ne h hok := (matches_draw (Or.inr h) hok).1
  seen_draw_of_ne h hok := seen_draw (Or.inr h) hok
  known_resize _ _ := rfl
  cell_resize _ _ _ _ := Screen.get_blank _
  intact_resize _ h hblank x y := by
    have hdrawn : _ = Cell.blank := (h x y).symm.trans (hblank x y)
    exact (Screen.get_blank _).trans hdrawn.symm

end Emulator

end Chip8
