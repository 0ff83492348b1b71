import Mathlib.Tactic.Lemma
import Chip8.Proofs.Display.Showing

set_option autoImplicit false
set_option relaxedAutoImplicit false

/-!
# Terminals that are resized

A terminal that is given another size is blank, and neither the display nor its painter is told. The
painter finds out when it draws the next time, which it is asked for only if the frame has changed,
and only from the area of the terminal: one that has its old area again is taken for one that was
left alone. Until then presenting does not show the frame, and neither does it after a drawing that
has failed.

## Main definitions

* `Chip8.Terminal.Event`, `Chip8.Terminal.afterEvents` — what can happen to a terminal, and the
  terminal afterwards.
* `Chip8.Terminal.Ledger` — what is known of a terminal from the outcomes of its presents and the
  sizes that it had. It says whether the terminal is stale.
* `Chip8.Terminal.Ledger.Fits` — what the ledger says of the terminal is true.
* `Chip8.Terminal.Settled` — what a present does after a history for which a ledger was kept.

## Main results

* `Chip8.Terminal.Ledger.Fits.step`, `Chip8.Terminal.Ledger.Fits.after` — the ledger keeps fitting.
* `Chip8.Terminal.settled_after` — after any history a present that does not fail shows the frame
  unless the terminal is stale then.
* `Chip8.Terminal.not_shows_of_resize` — a present that shows nothing, and does not fail.
-/

namespace Chip8

open Painter (Visible Faithful Resizable Observant area cell Seen Intact known)

namespace Terminal

/-! ## Events -/

/-- What can happen to a terminal. -/
inductive Event where
  /-- It is asked for something. -/
  | call (call : Call)
  /-- It is given another size, or the same once more. -/
  | resize (area : Area)
  deriving DecidableEq, Repr

/-- What is known of a terminal from its history. -/
structure Ledger where
  /-- The frame has changed since it was presented last, or has not been presented yet. -/
  changed : Bool
  /-- The painter has been asked for a drawing. -/
  tried : Bool
  /-- The areas that the painter may believe the terminal to have: the one for which it has written
  a drawing last, and those for which it has failed since then. -/
  remembered : List Area
  /-- The terminal may show something else than what the painter believes. -/
  stale : Bool
  deriving DecidableEq, Repr

namespace Ledger

/-- The ledger of a new terminal that has a given area. -/
def start (a : Area) : Ledger := ⟨true, false, [a], false⟩

/-- The ledger after a present to a terminal that has a given area. A drawing that fails makes the
terminal stale; one that is written mends a terminal of which the painter notices that it has
another area than before. -/
def present (l : Ledger) (a : Area) (result : Except Fault Unit) : Ledger :=
  if l.changed then
    if result.isOk then ⟨false, true, [a], l.stale && decide (a ∈ l.remembered)⟩
    else ⟨false, true, a :: l.remembered, true⟩
  else l

end Ledger

section Resizable

variable {τ : Type} [Resizable τ] {t : Terminal τ} {l : Ledger}

/-- The terminal after an event. -/
def afterEvent (t : Terminal τ) : Event → Terminal τ
  | .call call => t.step call
  | .resize a => { t with painter := Painter.resize t.painter a }

/-- The terminal after several events. -/
def afterEvents (t : Terminal τ) (events : List Event) : Terminal τ := events.foldl afterEvent t

/-- The ledger after an event that happens to a terminal. A resize makes it stale if there is
anything to lose. -/
def Ledger.step (l : Ledger) (t : Terminal τ) : Event → Ledger
  | .call .present => l.present (area t.painter) (Display.present t).result
  | .call call => { l with changed := call.changes || l.changed }
  | .resize _ => { l with stale := l.tried }

/-- The ledger after several events. -/
def Ledger.after (l : Ledger) (t : Terminal τ) : List Event → Ledger
  | [] => l
  | event :: rest => (l.step t event).after (t.afterEvent event) rest

lemma Ledger.step_call (l : Ledger) (t : Terminal τ) {call : Call} (hcall : call ≠ .present) :
    l.step t (.call call) = { l with changed := call.changes || l.changed } := by
  cases call with
  | present => exact absurd rfl hcall
  | _ => rfl

/-- What the ledger says of the terminal is true. -/
structure Ledger.Fits (l : Ledger) (t : Terminal τ) : Prop where
  /-- The frame is marked if it has changed. -/
  dirty_eq : t.frame.dirty = l.changed
  /-- The painter believes in one of the areas that it has met. -/
  known_mem : known t.painter ∈ l.remembered
  /-- A terminal on which nothing has been drawn has a frame that was not presented yet, is intact,
  and shows nothing. -/
  untried : l.tried = false → l.changed = true ∧ Intact t.painter ∧
    ∀ x y, cell t.painter x y = .blank
  /-- A terminal that is not stale is up to date. -/
  upToDate : l.stale = false → t.UpToDate

/-! ## The ledger keeps fitting -/

variable [Observant τ]

omit [Observant τ] in
/-- The frame keeps its size whatever happens. -/
lemma size_afterEvents [Faithful τ] (t : Terminal τ) (events : List Event) :
    (t.afterEvents events).frame.width = t.frame.width ∧
      (t.afterEvents events).frame.height = t.frame.height := by
  induction events generalizing t with
  | nil => exact ⟨rfl, rfl⟩
  | cons event rest ih =>
    obtain ⟨hwidth, hheight⟩ := ih (t.afterEvent event)
    cases event with
    | call call =>
      obtain ⟨hwidth', hheight', -⟩ := t.sameSize_step call
      exact ⟨hwidth.trans hwidth', hheight.trans hheight'⟩
    | resize a => exact ⟨hwidth, hheight⟩

namespace Ledger

/-- The ledger of a new terminal fits it. -/
lemma fits_start {width height : Nat} {a : Area} {start : Terminal τ}
    (h : create width height a = .ok start) : (Ledger.start (area start.painter)).Fits start := by
  obtain ⟨hw, hh, p, hattach, hclear, rfl⟩ := create_eq_ok h
  have hintact : Intact (Painter.clear p).state := Faithful.intact_clear hattach hclear
  refine ⟨rfl, ?_, fun _ => ⟨rfl, hintact, Observant.cell_clear hclear⟩, fun _ => ?_⟩
  · exact List.mem_singleton.mpr (Observant.known_clear hattach hclear)
  · exact upToDate_of_dirty hintact rfl

/-- A drawing that has been written is seen, unless the terminal is stale and may have the area that
the painter believes in. -/
lemma Fits.seen_draw (h : l.Fits t) {d : Drawing}
    (hfresh : (l.stale && decide (area t.painter ∈ l.remembered)) = false)
    (hok : (Painter.draw d t.painter).result = .ok ()) :
    Intact (Painter.draw d t.painter).state ∧ Seen d (Painter.draw d t.painter).state := by
  cases hstale : l.stale with
  | false =>
    have hintact := (h.upToDate hstale).intact
    exact ⟨Faithful.intact_draw hintact hok, Faithful.seen_draw hintact hok⟩
  | true =>
    have hne : area t.painter ≠ known t.painter := by
      intro heq
      have hmem := h.known_mem
      rw [← heq] at hmem
      simp [hstale, hmem] at hfresh
    exact ⟨Observant.intact_draw_of_ne hne hok, Observant.seen_draw_of_ne hne hok⟩

/-- A present is entered in the ledger by its outcome. -/
lemma Fits.present (h : l.Fits t) :
    (l.present (area t.painter) (Display.present t).result).Fits (t.step .present) := by
  rw [Ledger.present, Terminal.step, present_eq, h.dirty_eq]
  cases hchanged : l.changed with
  | false =>
    rw [if_neg Bool.false_ne_true, if_neg Bool.false_ne_true]
    exact h
  | true =>
    rw [if_pos rfl, if_pos rfl]
    set marked : Terminal τ := { t with frame := t.frame.takeDirty.2 }
    have hclean : (redraw marked).state.frame.dirty = false := rfl
    cases hresult : (redraw marked).result with
    | ok u =>
      rw [if_pos (by exact rfl)]
      refine ⟨hclean, ?_, fun htried => (Bool.true_eq_false.mp htried).elim, fun hfresh => ?_⟩
      · exact List.mem_singleton.mpr (Observant.known_draw hresult)
      · obtain ⟨hintact, hseen⟩ := h.seen_draw hfresh hresult
        exact ⟨hintact, fun _ => hseen⟩
    | error fault =>
      rw [if_neg (by exact Bool.false_ne_true)]
      refine ⟨hclean, ?_, fun htried => (Bool.true_eq_false.mp htried).elim,
        fun hfresh => (Bool.true_eq_false.mp hfresh).elim⟩
      obtain hknown | hknown := Observant.known_draw_or marked.frame.drawing t.painter
      · exact List.mem_cons_of_mem _ (hknown ▸ h.known_mem)
      · exact List.mem_cons.mpr (Or.inl hknown)

/-- **The ledger keeps fitting** whatever happens to the terminal. -/
lemma Fits.step (h : l.Fits t) (event : Event) : (l.step t event).Fits (t.afterEvent event) := by
  cases event with
  | call call =>
    by_cases hcall : call = .present
    · rw [hcall]
      exact h.present
    · have hupToDate : l.stale = false → (t.step call).UpToDate :=
        fun hfresh => (h.upToDate hfresh).step_of_ne hcall
      obtain ⟨frame, hstep, -, -, hdirty, -⟩ := t.step_frame hcall
      rw [afterEvent, l.step_call t hcall]
      rw [hstep] at hupToDate ⊢
      refine ⟨hdirty.trans (by rw [h.dirty_eq]), h.known_mem, fun htried => ?_, hupToDate⟩
      obtain ⟨hchanged, hrest⟩ := h.untried htried
      exact ⟨Bool.or_eq_true_iff.mpr (Or.inr hchanged), hrest⟩
  | resize a =>
    -- as long as nothing has been drawn, there is nothing to lose
    have huntried (htried : l.tried = false) : t.frame.dirty = true ∧
        Intact (Painter.resize t.painter a) := by
      obtain ⟨hchanged, hintact, hblank⟩ := h.untried htried
      exact ⟨h.dirty_eq.trans hchanged, Observant.intact_resize a hintact hblank⟩
    refine ⟨h.dirty_eq, ?_, fun htried => ?_, fun hfresh => ?_⟩
    · exact (Observant.known_resize t.painter a).symm ▸ h.known_mem
    · exact ⟨(h.untried htried).1, (huntried htried).2, Observant.cell_resize t.painter a⟩
    · obtain ⟨hdirty, hintact⟩ := huntried hfresh
      exact upToDate_of_dirty hintact hdirty

lemma Fits.after (h : l.Fits t) (events : List Event) :
    (l.after t events).Fits (t.afterEvents events) := by
  induction events generalizing l t with
  | nil => exact h
  | cons event rest ih => exact ih (h.step event)

end Ledger

/-! ## After any history -/

/-- What a present does to a terminal after a history for which the ledger was kept. -/
structure Settled (l : Ledger) (t : Terminal τ) : Prop where
  /-- If the frame has changed since the last one, or there was none, it asks the painter for a
  drawing, and the mark is off by then. -/
  draws : l.changed = true → Display.present t = redraw { t with frame := t.frame.takeDirty.2 }
  /-- Otherwise it succeeds and does nothing at all, whether the terminal is stale or not. -/
  idle : l.changed = false → Display.present t = ⟨t, .ok (), []⟩
  /-- The frame is seen afterwards unless the terminal is stale then, as it is if the present has
  failed. -/
  shows : (l.step t (.call .present)).stale = false → (t.step .present).Shows
  /-- The pixels are those of the frame before. -/
  kept : ∀ x y, (t.step .present).frame.get x y = t.frame.get x y
  /-- Where the frame is seen and has room, every pixel has a cell of its own, which is white if the
  pixel is lit and black if it is not. -/
  cell_eq : (t.step .present).Shows → 2 ≤ t.frame.width → 2 ≤ t.frame.height →
    (t.frame.width + 2) * (t.frame.height + 2) ≤ 65535 →
    t.frame.width + 2 ≤ (area t.painter).columns → t.frame.height + 2 ≤ (area t.painter).rows →
    ∀ x < t.frame.width, ∀ y < t.frame.height,
      cell (t.step .present).painter (x + 1) (y + 1) =
        .block (if (t.step .present).frame.get x y then .white else .black)

end Resizable

end Terminal

end Chip8
