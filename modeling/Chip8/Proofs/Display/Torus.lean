import Mathlib.Data.Fintype.Prod
import Mathlib.Logic.Function.Basic
import Chip8.Proofs.Display.Packed

set_option autoImplicit false
set_option relaxedAutoImplicit false

/-!
# A frame is a torus of pixels

What a frame packs into bytes is a rectangle of pixels whose opposite edges are joined. Everything
that can be asked of the frame is answered as by that torus, and none of it reaches the padding.

## Main definitions

* `Chip8.Torus` — pixels on a torus, and a mark for a picture that has changed.
* `Chip8.Frame.torus` — the pixels of a frame.
* `Chip8.Frame.Call` — what can be asked of a picture, of either kind.
* `Chip8.Frame.Packed` — the bytes of a frame, and all that is read from them, fit its pixels.

## Main results

* `Chip8.Frame.respond_torus` — one call is answered as by the torus.
* `Chip8.Frame.packed_of_tidy` — the readers of a frame agree.
* `Chip8.Frame.replay_torus` — from a blank frame on, any calls are answered as by the torus.
-/

namespace Chip8

/-! ## The torus -/

/-- Pixels on a torus. -/
structure Torus where
  /-- The number of columns. -/
  width : Nat
  /-- The number of rows. -/
  height : Nat
  /-- There is at least one column. -/
  width_pos : 0 < width
  /-- There is at least one row. -/
  height_pos : 0 < height
  /-- The pixel is lit. -/
  lit : Fin width × Fin height → Bool
  /-- The picture has changed since somebody asked for that. -/
  changed : Bool

namespace Torus

/-- The torus with all pixels unlit. Nobody has asked for it yet. -/
def unlit (width height : Nat) (hw : 0 < width) (hh : 0 < height) : Torus :=
  ⟨width, height, hw, hh, fun _ => false, true⟩

/-- The pixel at column `x` and row `y`, both taken round the torus. -/
def pixel (t : Torus) (x y : Nat) : Fin t.width × Fin t.height :=
  (⟨x % t.width, Nat.mod_lt x t.width_pos⟩, ⟨y % t.height, Nat.mod_lt y t.height_pos⟩)

/-- The torus with one pixel inverted. -/
def invert (t : Torus) (p : Fin t.width × Fin t.height) : Torus :=
  { t with lit := Function.update t.lit p (!t.lit p), changed := true }

end Torus

namespace Frame

/-- The pixels of a frame. -/
def torus (f : Frame) : Torus :=
  ⟨f.width, f.height, f.width_pos, f.height_pos, fun p => f.get p.1.val p.2.val, f.dirty⟩

variable {f : Frame} {x y x' y' : Nat}

lemma get_eq_lit (f : Frame) (x y : Nat) : f.get x y = f.torus.lit (f.torus.pixel x y) := by
  rw [get_eq_stored, ← position_mod, ← get_eq_stored]
  rfl

lemma pixel_eq_iff : f.torus.pixel x y = f.torus.pixel x' y' ↔
    f.position x y = f.position x' y' := by
  rw [position_eq_iff, Torus.pixel, Torus.pixel, Prod.mk.injEq, Fin.mk.injEq, Fin.mk.injEq]
  rfl

lemma pixel_val (p : Fin f.torus.width × Fin f.torus.height) :
    f.torus.pixel p.1.val p.2.val = p :=
  Prod.ext (Fin.ext (Nat.mod_eq_of_lt p.1.isLt)) (Fin.ext (Nat.mod_eq_of_lt p.2.isLt))

/-- Inverting a pixel of the frame is inverting it on the torus. -/
lemma torus_toggle (f : Frame) (x y : Nat) :
    (f.toggle x y).torus = f.torus.invert (f.torus.pixel x y) := by
  have hlit : (fun p : Fin f.torus.width × Fin f.torus.height =>
      (f.toggle x y).get p.1.val p.2.val) =
      Function.update f.torus.lit (f.torus.pixel x y) (!f.get x y) := by
    funext p
    have hp : p = f.torus.pixel x y ↔ f.position p.1.val p.2.val = f.position x y := by
      rw [← pixel_eq_iff, pixel_val]
    rw [get_toggle, Function.update_apply]
    by_cases h : f.position p.1.val p.2.val = f.position x y
    · have hget : f.get p.1.val p.2.val = f.get x y := by
        rw [get_eq_stored, h, ← get_eq_stored]
      rw [if_pos (hp.mpr h), hget, decide_eq_true h, Bool.xor_true]
    · rw [if_neg fun heq => h (hp.mp heq), decide_eq_false h, Bool.xor_false]
      rfl
  rw [Torus.invert, ← get_eq_lit]
  exact congrArg (Torus.mk f.width f.height f.width_pos f.height_pos · true) hlit

lemma torus_clear (f : Frame) :
    f.clear.torus = { f.torus with lit := fun _ => false, changed := true } := by
  have hlit : (fun p : Fin f.width × Fin f.height => f.clear.get p.1.val p.2.val) =
      fun _ => false := by
    funext p
    exact f.get_clear _ _
  exact congrArg (Torus.mk f.width f.height f.width_pos f.height_pos · true) hlit

/-! ## Calls -/

/-- What can be asked of a picture. -/
inductive Call where
  /-- Draws at a pixel, and asks whether that was lit. -/
  | draw (x y : Nat) (bit : Bool)
  /-- Turns every pixel off. -/
  | clear
  /-- Asks whether a pixel is lit. -/
  | get (x y : Nat)
  /-- Asks whether the picture has changed since this was asked the last time. -/
  | takeDirty
  deriving DecidableEq, Repr

/-- The answer of a frame, if there is one, and the frame afterwards. -/
def respond (f : Frame) : Call → Option Bool × Frame
  | .draw x y bit =>
    let (hit, f) := f.draw x y bit
    (some hit, f)
  | .clear => (none, f.clear)
  | .get x y => (some (f.get x y), f)
  | .takeDirty =>
    let (dirty, f) := f.takeDirty
    (some dirty, f)

end Frame

/-- The answer of a torus, if there is one, and the torus afterwards. Drawing inverts one pixel and
tells what it was; a bit that is not set does nothing at all. -/
def Torus.respond (t : Torus) : Frame.Call → Option Bool × Torus
  | .draw x y true => (some (t.lit (t.pixel x y)), t.invert (t.pixel x y))
  | .draw _ _ false => (some false, t)
  | .clear => (none, { t with lit := fun _ => false, changed := true })
  | .get x y => (some (t.lit (t.pixel x y)), t)
  | .takeDirty => (some t.changed, { t with changed := false })

namespace Frame

variable {f : Frame}

/-- The answers to several calls, one after the other, and what is left at the end. -/
def replay {σ : Type} (respond : σ → Call → Option Bool × σ) : σ → List Call →
    List (Option Bool) × σ
  | s, [] => ([], s)
  | s, call :: calls =>
    let (answer, s) := respond s call
    let (answers, s) := replay respond s calls
    (answer :: answers, s)

/-- **One call is answered as by the torus**, and does to the pixels what it does to the torus. -/
lemma respond_torus (f : Frame) (call : Call) :
    f.torus.respond call = ((f.respond call).1, (f.respond call).2.torus) := by
  cases call with
  | draw x y bit =>
    cases bit with
    | false => rfl
    | true =>
      change (some _, _) = (some (f.get x y), (f.toggle x y).torus)
      rw [torus_toggle, get_eq_lit]
  | clear =>
    change (none, _) = (none, f.clear.torus)
    rw [torus_clear]
  | get x y =>
    change (some _, _) = (some (f.get x y), f.torus)
    rw [get_eq_lit]
  | takeDirty => rfl

lemma Tidy.respond (h : f.Tidy) (call : Call) : (f.respond call).2.Tidy := by
  cases call with
  | draw x y bit =>
    cases bit with
    | false => exact h
    | true => exact h.toggle x y
  | clear => exact f.tidy_clear
  | get x y => exact h
  | takeDirty => exact h

lemma size_respond (f : Frame) (call : Call) :
    (f.respond call).2.width = f.width ∧ (f.respond call).2.height = f.height := by
  cases call with
  | draw x y bit => cases bit <;> exact ⟨rfl, rfl⟩
  | clear => exact ⟨rfl, rfl⟩
  | get x y => exact ⟨rfl, rfl⟩
  | takeDirty => exact ⟨rfl, rfl⟩

/-- Any calls are answered as by the torus. -/
lemma replay_eq (f : Frame) (calls : List Call) :
    replay Torus.respond f.torus calls =
      ((replay respond f calls).1, (replay respond f calls).2.torus) := by
  induction calls generalizing f with
  | nil => rfl
  | cons call calls ih =>
    rw [replay, replay, respond_torus]
    dsimp only
    rw [ih]

lemma Tidy.replay (h : f.Tidy) (calls : List Call) : (replay Frame.respond f calls).2.Tidy := by
  induction calls generalizing f with
  | nil => exact h
  | cons call calls ih => exact ih (h.respond call)

lemma size_replay (f : Frame) (calls : List Call) :
    (replay respond f calls).2.width = f.width ∧ (replay respond f calls).2.height = f.height := by
  induction calls generalizing f with
  | nil => exact ⟨rfl, rfl⟩
  | cons call calls ih =>
    obtain ⟨hwidth, hheight⟩ := f.size_respond call
    obtain ⟨hwidth', hheight'⟩ := ih (f.respond call).2
    exact ⟨hwidth'.trans hwidth, hheight'.trans hheight⟩

/-! ## What is read from the bytes -/

/-- The bytes of a frame, and all that is read from them, fit its pixels. -/
structure Packed (f : Frame) : Prop where
  /-- There are as many bytes as the pixels need. -/
  length_bytes : f.bytes.toList.length = (f.width * f.height) ⌈/⌉ 8
  /-- Every pixel is in a byte that is there. -/
  inside : ∀ k < f.width * f.height, k / 8 < f.bytes.toList.length
  /-- A pixel is read from its bit in the byte that holds it. -/
  get_eq : ∀ x y, let k := y % f.height * f.width + x % f.width
    k < f.width * f.height ∧ ∃ byte, f.bytes.toList[k / 8]? = some byte ∧
      f.get x y = byte.toNat.testBit (7 - k % 8)
  /-- The bits behind the pixels are unlit. -/
  padding : ∀ k byte, f.width * f.height ≤ k → f.bytes.toList[k / 8]? = some byte →
    byte.toNat.testBit (7 - k % 8) = false
  /-- The bits that are set are as many as the pixels that are lit. -/
  litCount_eq : f.litCount = (Finset.univ.filter fun p => f.torus.lit p).card
  /-- The two planes have the point of every pixel. -/
  planes_perm : (f.plane true ++ f.plane false).Perm
    ((List.range (f.width * f.height)).map fun k =>
      (((k % f.width : Nat) : Int), -((k / f.width : Nat) : Int)))
  /-- They have none of them twice. -/
  nodup_planes : (f.plane true ++ f.plane false).Nodup
  /-- Which plane has the point of a pixel depends on whether that is lit. -/
  mem_plane : ∀ lit x y, x < f.width → y < f.height →
    (((x : Int), -(y : Int)) ∈ f.plane lit ↔ f.get x y = lit)

/-- The pixels are numbered through by their places. -/
lemma card_lit (f : Frame) : (Finset.univ.filter fun p => f.torus.lit p).card =
    (List.range f.area).countP f.stored := by
  have hrange : (List.range f.area).countP f.stored =
      ((Finset.range f.area).filter fun k => f.stored k).card := by
    have hfilter : (List.range f.area).filter f.stored =
        (List.range f.area).filter fun k => decide (f.stored k = true) := by simp
    rw [List.countP_eq_length_filter, hfilter]
    rfl
  rw [hrange]
  apply Finset.card_bij fun p _ => f.position p.1.val p.2.val
  · intro p hp
    simp only [Finset.mem_filter, Finset.mem_univ, true_and] at hp
    simp only [Finset.mem_filter, Finset.mem_range]
    exact ⟨f.position_lt _ _, by rw [← get_eq_stored]; exact hp⟩
  · intro p _ q _ h
    rw [← pixel_eq_iff, pixel_val, pixel_val] at h
    exact h
  · intro k hk
    simp only [Finset.mem_filter, Finset.mem_range] at hk
    refine ⟨f.torus.pixel (k % f.width) (k / f.width), ?_, ?_⟩
    · simp only [Finset.mem_filter, Finset.mem_univ, true_and]
      rw [← get_eq_lit, get_eq_stored, position_mod_div hk.1]
      exact hk.2
    · exact (f.position_mod _ _).trans (position_mod_div hk.1)

/-- **The readers of a frame agree** with each other and with its bytes, if the padding is unlit. -/
theorem packed_of_tidy (h : f.Tidy) : f.Packed where
  length_bytes := f.length_bytes_eq_ceilDiv
  inside k hk := by
    rw [Frame.length_bytes]
    exact div_lt_packedSize hk
  get_eq x y := by
    have hlt := f.position_lt x y
    refine ⟨hlt, _, getElem?_bytes (div_lt_packedSize hlt), ?_⟩
    rw [get, bit, and_pixelMask]
    rfl
  padding k byte hk hbyte := by
    have hunlit := h k hk
    rw [stored, hbyte] at hunlit
    exact hunlit
  litCount_eq := by rw [litCount_of_tidy h, card_lit]
  planes_perm := f.planes_perm
  nodup_planes := f.nodup_planes
  mem_plane _ _ _ hx hy := Frame.mem_plane hx hy

/-! ## From a blank frame on -/

lemma tidy_blank (width height : Nat) (hw : 0 < width) (hh : 0 < height) :
    (blank width height hw hh).Tidy :=
  (blank width height hw hh).tidy_clear

lemma torus_blank (width height : Nat) (hw : 0 < width) (hh : 0 < height) :
    (blank width height hw hh).torus = .unlit width height hw hh :=
  (blank width height hw hh).torus_clear

/-- **A frame is a torus of pixels.** Any calls, with any coordinates, are answered by a frame that
was blank at first as by a torus that was unlit at first, and leave the same pixels lit. The bytes
are as many as the pixels need, no call looks behind their end, and none sets a bit of the padding.
A pixel is read from its bit; the number of bits that are set is the number of pixels that are lit;
and the planes of the lit and of the unlit pixels have each pixel once, at its point of the canvas.

**Proof sketch.** The number of a pixel is less than the number of pixels, and tells the pixel. So
inverting the bit with that number changes one pixel and no padding. -/
theorem replay_torus (width height : Nat) (hw : 0 < width) (hh : 0 < height) (calls : List Call) :
    let f := (replay respond (blank width height hw hh) calls).2
    let t := (replay Torus.respond (.unlit width height hw hh) calls).2
    (replay respond (blank width height hw hh) calls).1 =
        (replay Torus.respond (.unlit width height hw hh) calls).1 ∧
      f.torus = t ∧ f.width = width ∧ f.height = height ∧ f.Packed := by
  intro f t
  have hreplay := (blank width height hw hh).replay_eq calls
  rw [torus_blank] at hreplay
  obtain ⟨hwidth, hheight⟩ := (blank width height hw hh).size_replay calls
  have htidy := (tidy_blank width height hw hh).replay calls
  refine ⟨?_, ?_, hwidth, hheight, packed_of_tidy htidy⟩
  · rw [hreplay]
  · change f.torus = (replay Torus.respond (.unlit width height hw hh) calls).2
    rw [hreplay]

/-- In a picture of five by five pixels the last pixel is drawn twice, the second time from beyond
both edges, with a third drawing at the first pixel in between. -/
theorem replay_torus_five :
    let calls := [.draw 4 4 true, .draw 0 0 true, .draw 9 9 true, .draw 3 3 false, .get 5 10]
    let f := (replay respond (blank 5 5 (by decide) (by decide)) calls).2
    (replay respond (blank 5 5 (by decide) (by decide)) calls).1 =
        [some false, some false, some true, some false, some true] ∧
      f.bytes.toList = [0x80, 0, 0, 0] ∧ f.litCount = 1 ∧
      f.litCount = (Finset.univ.filter fun p => f.torus.lit p).card := by
  intro calls f
  obtain ⟨hanswers, -, -, -, hpacked⟩ := replay_torus 5 5 (by decide) (by decide) calls
  exact ⟨hanswers.trans (by decide), by decide, by decide, hpacked.litCount_eq⟩

end Frame

end Chip8
