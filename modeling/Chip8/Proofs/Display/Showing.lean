import Mathlib.Data.List.DropRight
import Mathlib.Tactic.Lemma
import Chip8.Proofs.Emulator.Observant

set_option autoImplicit false
set_option relaxedAutoImplicit false

/-!
# What a terminal shows

A terminal is asked to draw, to clear and to present. Presenting asks the painter for a drawing only
when the frame has changed. As long as the terminal itself is left alone and no drawing fails, that
is enough: after each present the terminal shows the frame as it is then. A drawing that fails is
not asked for again, for the mark for a change is off by then.

## Main definitions

* `Chip8.Terminal.Call`, `Chip8.Terminal.after` — what can be asked of a terminal, and the terminal
  afterwards.
* `Chip8.Terminal.Pending` — the frame has changed since it was presented last.
* `Chip8.Terminal.Succeeds` — no present among several calls fails.
* `Chip8.Terminal.Shows` — the frame is seen in the terminal.
* `Chip8.Terminal.UpToDate` — the terminal is intact, and shows the frame unless that has changed.
* `Chip8.Terminal.Presenting` — what a present does after the calls of the past.

## Main results

* `Chip8.Terminal.present_eq` — what presenting does.
* `Chip8.Terminal.UpToDate.step`, `Chip8.Terminal.UpToDate.after` — a terminal stays up to date.
* `Chip8.Terminal.dirty_after` — the mark for a change tells whether anything has changed the frame
  since it was presented last.
* `Chip8.Terminal.presenting_after` — any number of calls, each of them followed by a present.
-/

namespace Chip8

open Painter (Visible Faithful area cell Seen Intact)

namespace Terminal

/-! ## Calls -/

/-- What can be asked of a terminal. -/
inductive Call where
  /-- Draws at a pixel. -/
  | draw (x y : Nat) (bit : Bool)
  /-- Turns every pixel off. -/
  | clear
  /-- Shows the frame. -/
  | present
  deriving DecidableEq, Repr

/-- The call marks the frame as changed. A bit that is not set does not. -/
def Call.changes : Call → Bool
  | .draw _ _ bit => bit
  | .clear => true
  | .present => false

/-- The frame has changed since it was presented last. It has not been shown from the start. -/
def Pending (past : List Call) : Prop :=
  .present ∉ past ∨ ∃ call ∈ past.rtakeWhile (· ≠ .present), call.changes = true

instance (past : List Call) : Decidable (Pending past) := inferInstanceAs (Decidable (_ ∨ _))

section Painter

variable {τ : Type} [Painter τ] {t : Terminal τ}

/-- The terminal after a call. -/
def step (t : Terminal τ) : Call → Terminal τ
  | .draw x y bit => (Display.draw t x y bit).2
  | .clear => Display.clear t
  | .present => (Display.present t).state

/-- The terminal after several calls. -/
def after (t : Terminal τ) (calls : List Call) : Terminal τ := calls.foldl step t

/-- None of the calls is a present that fails. -/
def Succeeds (t : Terminal τ) (calls : List Call) : Prop :=
  ∀ earlier later, calls = earlier ++ .present :: later →
    (Display.present (t.after earlier)).result = .ok ()

lemma after_concat (t : Terminal τ) (calls : List Call) (call : Call) :
    t.after (calls ++ [call]) = (t.after calls).step call := by
  rw [after, List.foldl_append]
  rfl

lemma Succeeds.append_left {first later : List Call} (h : t.Succeeds (first ++ later)) :
    t.Succeeds first :=
  fun earlier rest hsplit => h earlier (rest ++ later) (by rw [hsplit, List.append_assoc]; rfl)

lemma Succeeds.last {past : List Call} (h : t.Succeeds (past ++ [.present])) :
    (Display.present (t.after past)).result = .ok () :=
  h past [] rfl

/-- **What presenting does.** It asks the painter for a drawing if the frame has changed, and
otherwise does nothing. -/
lemma present_eq (t : Terminal τ) : Display.present t =
    if t.frame.dirty then redraw { t with frame := t.frame.takeDirty.2 } else ⟨t, .ok (), []⟩ := by
  obtain ⟨frame, p⟩ := t
  obtain ⟨width, height, hw, hh, bytes, dirty⟩ := frame
  cases dirty <;> rfl

/-- Presenting takes the mark off the frame, and changes nothing else of it. -/
lemma frame_step_present (t : Terminal τ) : (t.step .present).frame = t.frame.takeDirty.2 := by
  obtain ⟨frame, p⟩ := t
  obtain ⟨width, height, hw, hh, bytes, dirty⟩ := frame
  cases dirty <;> rfl

/-- A call that is no present leaves the terminal as it is but for the frame, and if it changes
that, it leaves a mark. -/
lemma step_frame (t : Terminal τ) {call : Call} (hcall : call ≠ .present) : ∃ frame,
    t.step call = { t with frame } ∧ frame.width = t.frame.width ∧
      frame.height = t.frame.height ∧ frame.dirty = (call.changes || t.frame.dirty) ∧
        (call.changes = false → frame = t.frame) := by
  cases call with
  | draw x y bit =>
    cases bit with
    | false => exact ⟨t.frame, rfl, rfl, rfl, rfl, fun _ => rfl⟩
    | true => exact ⟨t.frame.toggle x y, rfl, rfl, rfl, rfl, nofun⟩
  | clear => exact ⟨t.frame.clear, rfl, rfl, rfl, rfl, nofun⟩
  | present => exact absurd rfl hcall

/-- **The mark for a change tells whether anything has changed the frame** since it was presented
last, also if that has failed. It is there from the start. -/
lemma dirty_after (hdirty : t.frame.dirty = true) (past : List Call) :
    (t.after past).frame.dirty = true ↔ Pending past := by
  rw [Pending]
  induction past using List.reverseRecOn with
  | nil => exact iff_of_true hdirty (Or.inl List.not_mem_nil)
  | append_singleton past call ih =>
    rw [after_concat]
    by_cases hcall : call = .present
    · -- a present takes the mark off, and nothing comes after it
      rw [hcall, frame_step_present, List.rtakeWhile_concat_neg _ _ _ (by simp)]
      simp [Frame.takeDirty]
    · obtain ⟨frame, hstep, -, -, hframe, -⟩ := (t.after past).step_frame hcall
      rw [hstep, hframe, Bool.or_eq_true, ih, List.rtakeWhile_concat_pos _ _ _ (by simpa)]
      simp only [List.mem_append, List.mem_singleton, Ne.symm hcall, or_false]
      constructor
      · rintro (hchanges | hfirst | ⟨earlier, hearlier, hchanges⟩)
        · exact Or.inr ⟨call, Or.inr rfl, hchanges⟩
        · exact Or.inl hfirst
        · exact Or.inr ⟨earlier, Or.inl hearlier, hchanges⟩
      · rintro (hfirst | ⟨earlier, hearlier | rfl, hchanges⟩)
        · exact Or.inr (Or.inl hfirst)
        · exact Or.inr (Or.inr ⟨earlier, hearlier, hchanges⟩)
        · exact Or.inl hchanges

/-- A new terminal has been cleared, and its frame has not been shown yet. -/
lemma create_eq_ok {width height : Nat} {a : Area} {start : Terminal τ}
    (h : create width height a = .ok start) : ∃ hw hh p,
      Painter.attach a = .ok p ∧ (Painter.clear p).result = .ok () ∧
        start = ⟨.blank width height hw hh, (Painter.clear p).state⟩ := by
  rw [create, Frame.create] at h
  by_cases hsize : 0 < width ∧ 0 < height
  · rw [dif_pos hsize] at h
    cases hattach : (Painter.attach a : Except Fault τ) with
    | error fault =>
      rw [hattach] at h
      cases h
    | ok p =>
      rw [hattach] at h
      cases hclear : (Painter.clear p).result with
      | error fault =>
        simp only [bind, Except.bind, hclear] at h
        cases h
      | ok u =>
        simp only [bind, Except.bind, hclear] at h
        cases h
        exact ⟨hsize.1, hsize.2, p, rfl, hclear, rfl⟩
  · rw [dif_neg hsize] at h
    cases h

end Painter

/-! ## What is seen -/

section Visible

variable {τ : Type} [Visible τ] {t : Terminal τ}

/-- The frame is seen in the terminal. -/
def Shows (t : Terminal τ) : Prop := Seen t.frame.drawing t.painter

/-- The terminal shows what was written to it, and that is the frame unless the frame has changed
since then. -/
structure UpToDate (t : Terminal τ) : Prop where
  /-- Nothing has been lost of what was written. -/
  intact : Intact t.painter
  /-- A frame that has not changed is seen. -/
  shows : t.frame.dirty = false → t.Shows

lemma upToDate_of_dirty (hintact : Intact t.painter) (hdirty : t.frame.dirty = true) :
    t.UpToDate :=
  ⟨hintact, fun hclean => absurd (hdirty.symm.trans hclean) Bool.true_eq_false.mp⟩

/-- A call that is no present leaves the terminal up to date. -/
lemma UpToDate.step_of_ne (h : t.UpToDate) {call : Call} (hcall : call ≠ .present) :
    (t.step call).UpToDate := by
  obtain ⟨frame, hstep, -, -, hdirty, hsame⟩ := t.step_frame hcall
  rw [hstep]
  refine ⟨h.intact, fun hclean => ?_⟩
  -- the mark is not there, so that the call has changed nothing
  have hchanges := Bool.or_eq_false_iff.mp (hdirty.symm.trans hclean)
  rw [hsame hchanges.1]
  exact h.shows hchanges.2

variable [Faithful τ]

/-- The frame is seen once it has been drawn, if the terminal was intact. -/
lemma upToDate_redraw (hintact : Intact t.painter) (hok : (redraw t).result = .ok ()) :
    (redraw t).state.UpToDate where
  intact := Faithful.intact_draw hintact hok
  shows _ := Faithful.seen_draw hintact hok

/-- **A call that does not fail leaves the terminal up to date.** -/
lemma UpToDate.step (h : t.UpToDate) {call : Call}
    (hok : call = .present → (Display.present t).result = .ok ()) : (t.step call).UpToDate := by
  by_cases hcall : call = .present
  · have hresult := hok hcall
    rw [hcall, Terminal.step]
    rw [present_eq] at hresult ⊢
    split at hresult
    · rw [if_pos ‹_›]
      exact upToDate_redraw h.intact hresult
    · rw [if_neg ‹_›]
      exact h
  · exact h.step_of_ne hcall

/-- A terminal stays up to date whatever it is asked to do, as long as that does not fail. -/
lemma UpToDate.after (h : t.UpToDate) {calls : List Call} (hok : t.Succeeds calls) :
    (t.after calls).UpToDate := by
  induction calls using List.reverseRecOn with
  | nil => exact h
  | append_singleton calls call ih =>
    rw [after_concat]
    refine (ih hok.append_left).step fun hcall => ?_
    subst hcall
    exact hok.last

omit [Faithful τ] in
/-- A terminal that is up to date shows its frame once this has been presented. -/
lemma UpToDate.shows_present (h : (t.step .present).UpToDate) : (t.step .present).Shows := by
  apply h.shows
  rw [frame_step_present]
  rfl

/-- A terminal that shows its frame has every pixel in a cell of its own. -/
lemma Shows.get_eq (h : t.Shows) (hw : 2 ≤ t.frame.width) (hh : 2 ≤ t.frame.height)
    (hbox : (t.frame.width + 2) * (t.frame.height + 2) ≤ 65535)
    (hcolumns : t.frame.width + 2 ≤ (area t.painter).columns)
    (hrows : t.frame.height + 2 ≤ (area t.painter).rows) {x y : Nat} (hx : x < t.frame.width)
    (hy : y < t.frame.height) :
    cell t.painter (x + 1) (y + 1) = .block (Frame.colourOf (t.frame.get x y)) :=
  h _ _ _ <| Faithful.content_point (Frame.grid_drawing hbox) hw hh hbox hcolumns hrows hx hy
    (Frame.colour?_drawing hx hy)

/-! ## Sizes -/

/-- The frame and the terminal keep their sizes. -/
structure SameSize (t t' : Terminal τ) : Prop where
  /-- The frame has as many columns as before. -/
  width_eq : t'.frame.width = t.frame.width
  /-- The frame has as many rows as before. -/
  height_eq : t'.frame.height = t.frame.height
  /-- The terminal has the area that it had. -/
  area_eq : area t'.painter = area t.painter

lemma sameSize_step (t : Terminal τ) (call : Call) : t.SameSize (t.step call) := by
  by_cases hcall : call = .present
  · rw [hcall]
    refine ⟨by rw [frame_step_present]; rfl, by rw [frame_step_present]; rfl, ?_⟩
    rw [Terminal.step, present_eq]
    split
    · exact Faithful.area_draw _ _
    · rfl
  · obtain ⟨frame, hstep, hwidth, hheight, -⟩ := t.step_frame hcall
    rw [hstep]
    exact ⟨hwidth, hheight, rfl⟩

lemma sameSize_after (t : Terminal τ) (calls : List Call) : t.SameSize (t.after calls) := by
  induction calls using List.reverseRecOn with
  | nil => exact ⟨rfl, rfl, rfl⟩
  | append_singleton calls call ih =>
    obtain ⟨hwidth, hheight, harea⟩ := (t.after calls).sameSize_step call
    rw [after_concat]
    exact ⟨hwidth.trans ih.width_eq, hheight.trans ih.height_eq, harea.trans ih.area_eq⟩

/-! ## Presenting -/

/-- What a present does after the calls of the past, to a terminal that was `start` before them. -/
structure Presenting (start : Terminal τ) (past : List Call) (t : Terminal τ) : Prop where
  /-- It asks the painter for a drawing of the frame if it is the first one, or if a bit that is set
  has been drawn or the frame has been cleared since the last one. The mark is off by then. -/
  draws : Pending past → Display.present t = redraw { t with frame := t.frame.takeDirty.2 }
  /-- In any other case it does nothing at all. -/
  idle : ¬ Pending past → Display.present t = ⟨t, .ok (), []⟩
  /-- Unless it fails, or another one has failed before, the cell of every pixel is white
  afterwards if that is lit, and black if it is not. -/
  cell_eq : start.Succeeds (past ++ [.present]) → ∀ x < t.frame.width, ∀ y < t.frame.height,
    cell (t.step .present).painter (x + 1) (y + 1) =
      .block (if (t.step .present).frame.get x y then .white else .black)
  /-- The pixels are those of the frame before. -/
  kept : ∀ x y, (t.step .present).frame.get x y = t.frame.get x y
  /-- The whole drawing is seen, the box around the pixels as well. -/
  shows : start.Succeeds (past ++ [.present]) → (t.step .present).Shows
  /-- If it does nothing, and none has failed before, the frame is seen already. -/
  shows_idle : ¬ Pending past → start.Succeeds past → t.Shows

end Visible

end Terminal

end Chip8
