import Mathlib.Data.Finset.Card
import Chip8.Proofs.Instruction.Draw
import Chip8.Proofs.Instruction.Effect

set_option autoImplicit false
set_option relaxedAutoImplicit false

/-!
# Drawing several times

Drawing inverts pixels and does nothing else to the picture. So it does not matter in which order
two sprites are drawn, and a sprite that is drawn a second time is gone. The flag tells the second
drawing from the first, unless the sprite covers itself.

## Main definitions

* `Chip8.Instruction.Steady` — a drawing instruction does not read its place from the flag register.

## Main results

* `Chip8.Frame.toggleAll_comm`, `Chip8.Frame.toggleAll_toggleAll` — pixels inverted in another
  order, and inverted twice.
* `Chip8.Frame.Drawn.collision` — what has been drawn on unlit pixels collides the next time.
* `Chip8.Board.draws_invert` — two drawing instructions one after the other.
-/

namespace Chip8

open Framed (frame)

/-! ## Inverting pixels again -/

namespace Frame

variable {f f' : Frame}

/-- The bits of byte number `j` that change when a pixel is inverted. -/
def changed (f : Frame) (x y j : Nat) : UInt8 :=
  if f.position x y / 8 = j then pixelMask (f.position x y) else 0

lemma getElem_toggle (f : Frame) (x y j : Nat) (hj : j < packedSize f.area) :
    (f.toggle x y).bytes[j] = f.bytes[j] ^^^ f.changed x y j := by
  have hk : f.position x y / 8 < packedSize f.area := div_lt_packedSize (f.position_lt x y)
  change (f.bytes.set _ (f.bytes[f.position x y / 8] ^^^ pixelMask (f.position x y)) hk)[j] = _
  rw [Vector.getElem_set, changed]
  by_cases h : f.position x y / 8 = j
  · subst h
    rw [if_pos rfl, if_pos rfl]
  · rw [if_neg h, if_neg h, UInt8.xor_zero]

/-- Two pixels can be inverted in either order. -/
lemma toggle_comm (f : Frame) (x y x' y' : Nat) :
    (f.toggle x y).toggle x' y' = (f.toggle x' y').toggle x y := by
  have hbytes : ((f.toggle x y).toggle x' y').bytes = ((f.toggle x' y').toggle x y).bytes := by
    apply Vector.ext
    intro j hj
    calc
      _ = f.bytes[j] ^^^ f.changed x y j ^^^ f.changed x' y' j := by
        rw [← getElem_toggle f x y j hj]
        exact (f.toggle x y).getElem_toggle x' y' j hj
      _ = f.bytes[j] ^^^ f.changed x' y' j ^^^ f.changed x y j := by
        rw [UInt8.xor_assoc, UInt8.xor_comm (f.changed x y j), ← UInt8.xor_assoc]
      _ = _ := by
        rw [← getElem_toggle f x' y' j hj]
        exact ((f.toggle x' y').getElem_toggle x y j hj).symm
  exact congrArg (Frame.mk f.width f.height f.width_pos f.height_pos · true) hbytes

/-- A pixel that is inverted twice is as before; the picture counts as changed. -/
lemma toggle_toggle (f : Frame) (x y : Nat) :
    (f.toggle x y).toggle x y = { f with dirty := true } := by
  have hbytes : ((f.toggle x y).toggle x y).bytes = f.bytes := by
    apply Vector.ext
    intro j hj
    calc
      _ = f.bytes[j] ^^^ f.changed x y j ^^^ f.changed x y j := by
        rw [← getElem_toggle f x y j hj]
        exact (f.toggle x y).getElem_toggle x y j hj
      _ = f.bytes[j] := by rw [UInt8.xor_assoc, UInt8.xor_self, UInt8.xor_zero]
  exact congrArg (Frame.mk f.width f.height f.width_pos f.height_pos · true) hbytes

/-- **Pixels can be inverted in any order.** -/
lemma toggleAll_comm (f : Frame) (pixels pixels' : List (Nat × Nat)) :
    (f.toggleAll pixels).toggleAll pixels' = (f.toggleAll pixels').toggleAll pixels := by
  rw [← toggleAll_append, ← toggleAll_append]
  apply List.Perm.foldl_eq' List.perm_append_comm
  exact fun p _ q _ f => f.toggle_comm p.1 p.2 q.1 q.2

/-- **Pixels that are inverted twice are as before.** The picture counts as changed if there are
any. -/
lemma toggleAll_toggleAll (f : Frame) (pixels : List (Nat × Nat)) :
    (f.toggleAll pixels).toggleAll pixels =
      { f with dirty := f.dirty || !pixels.isEmpty } := by
  induction pixels generalizing f with
  | nil =>
    change f = { f with dirty := f.dirty || false }
    rw [Bool.or_false]
  | cons p rest ih =>
    have hswap : ((f.toggle p.1 p.2).toggleAll rest).toggle p.1 p.2 =
        ((f.toggle p.1 p.2).toggle p.1 p.2).toggleAll rest :=
      toggleAll_comm (f.toggle p.1 p.2) rest [p]
    rw [toggleAll_cons, toggleAll_cons, hswap, toggle_toggle, ih]
    simp

/-- **What has been drawn on unlit pixels collides the next time**: a pixel on which one bit of the
sprite has fallen is lit now, and two bits on the same pixel collide anyway. -/
lemma Drawn.collision {bits : Finset (Nat × Nat)} {left top : Nat} {flag : UInt8}
    (h : f.Drawn bits left top f' flag) (hbits : bits.Nonempty)
    (hunlit : ∀ b ∈ bits, f.get (place left top b).1 (place left top b).2 = false) :
    f'.Collision bits left top := by
  by_cases hfolded : ∃ b ∈ bits, ∃ b' ∈ bits, b ≠ b' ∧
      f.SamePixel (place left top b) (place left top b')
  · obtain ⟨b, hb, b', hb', hne, hsame⟩ := hfolded
    refine .inr ⟨b, hb, b', hb', hne, ?_⟩
    rw [SamePixel, h.width_eq, h.height_eq]
    exact hsame
  · push Not at hfolded
    obtain ⟨b, hb⟩ := hbits
    have halone : bits.filter (fun b' => f.SamePixel (place left top b') (place left top b)) =
        {b} := by
      apply Finset.eq_singleton_iff_unique_mem.mpr
      refine ⟨Finset.mem_filter.mpr ⟨hb, rfl, rfl⟩, fun b' hb' => ?_⟩
      rw [Finset.mem_filter] at hb'
      by_contra hne
      exact hfolded b' hb'.1 b hb hne hb'.2
    refine .inl ⟨b, hb, ?_⟩
    have hget := h.get_eq (place left top b).1 (place left top b).2
    rw [Prod.mk.eta, halone, Finset.card_singleton, Function.iterate_one, hunlit b hb] at hget
    exact hget

end Frame

/-! ## Instructions -/

/-- The instruction does not name the flag register as the place of its sprite. -/
def Instruction.Steady (i : Instruction) : Prop :=
  i.register 0 ≠ Cpu.flagRegister ∧ i.register 1 ≠ Cpu.flagRegister

instance (i : Instruction) : Decidable i.Steady := inferInstanceAs (Decidable (_ ∧ _))

namespace Board

variable {δ : Type} [Devices δ] {i j : Instruction} {b : Board δ}

/-- Drawing changes no register but the flag register. -/
lemma v_execute_draw (hi : i.mnemonic = .draw) {r : Register} (hr : r ≠ Cpu.flagRegister)
    (b : Board δ) : (execute i b).state.cpu.v r = b.cpu.v r := by
  rw [part_execute (fun b => b.cpu.v r) (fun _ _ => rfl)]
  simp only [perform, hi]
  exact keeps_register_drawSprite hr _ _ _ b

/-- What an instruction is to draw does not depend on what has been drawn before. -/
lemma sprite_execute_draw (hi : i.mnemonic = .draw) (hj : j.Steady) (b : Board δ) :
    (execute i b).state.memory = b.memory ∧ (execute i b).state.cpu.index = b.cpu.index ∧
      (execute i b).state.cpu.v (j.register 0) = b.cpu.v (j.register 0) ∧
      (execute i b).state.cpu.v (j.register 1) = b.cpu.v (j.register 1) :=
  ⟨writes_execute i b .memory (by rw [hi]; decide), writes_execute i b .index (by rw [hi]; decide),
    v_execute_draw hi hj.1 b, v_execute_draw hi hj.2 b⟩

lemma spritePixels_execute_draw (hi : i.mnemonic = .draw) (hj : j.Steady) (b : Board δ) :
    spritePixels j (execute i b).state = spritePixels j b := by
  obtain ⟨hmemory, hindex, hx, hy⟩ := sprite_execute_draw hi hj b
  rw [spritePixels, spritePixels, hmemory, hindex, hx, hy]

/-- Whether an instruction can draw its whole sprite does not depend on what has been drawn
before. -/
lemma result_execute_draw (hi : i.mnemonic = .draw) (hj : j.mnemonic = .draw) (b : Board δ) :
    (execute j (execute i b).state).result = (execute j b).result := by
  have hindex : Place.index.Same b (execute i b).state :=
    writes_execute i b _ (by rw [hi]; decide)
  have hresult (b : Board δ) : (execute j b).result = Memory.walk b.cpu.index j.reach :=
    result_execute_of_ne (by rw [hj]; decide) (by rw [hj]; decide) b
  rw [hresult, hresult]
  exact congrArg (Memory.walk · j.reach) hindex

variable [Framed δ]

/-- Two sprites that are drawn one after the other are inverted one after the other. -/
lemma frame_execute_draws (hi : i.mnemonic = .draw) (hj : j.mnemonic = .draw) (hsteady : j.Steady)
    (b : Board δ) : frame (execute j (execute i b).state).state.devices =
      ((frame b.devices).toggleAll (spritePixels i b)).toggleAll (spritePixels j b) := by
  rw [(execute_draw_eq hj _).1, (execute_draw_eq hi b).1, spritePixels_execute_draw hi hsteady]

/-- **Drawing only inverts pixels.** Two instructions that draw their whole sprites, at places that
are not in the flag register, can also do so one after the other. The picture is then the same in
either order, and if the instructions are the same, it is what it was before: the same bytes, with
the mark for a change if the sprite has a bit that is set. With such a bit, one of two equal
drawings sets the flag; and it is the second one if the pixels of the sprite were all unlit before.

**Proof sketch.** All a drawing reads besides the picture is left alone by other drawings. The
picture after both is the one with the pixels of both sprites inverted, in any order, and inverting
them twice is doing nothing. When the first drawing sets no flag, all pixels of the sprite were
unlit, and the second drawing finds them lit. -/
theorem draws_invert (hi : i.mnemonic = .draw) (hj : j.mnemonic = .draw) (hiSteady : i.Steady)
    (hjSteady : j.Steady) (b : Board δ) (hiOk : (execute i b).result = .ok ())
    (hjOk : (execute j b).result = .ok ()) :
    let both (i j : Instruction) := execute j (execute i b).state
    let f := frame b.devices
    let bits := b.memory.spriteBits b.cpu.index.toNat (i.operand 2).toNat
    let place := Frame.place (b.cpu.v (i.register 0)).toNat (b.cpu.v (i.register 1)).toNat
    ((both i j).result = .ok () ∧ (both j i).result = .ok () ∧
      frame (both i j).state.devices = frame (both j i).state.devices) ∧
    ((both i i).result = .ok () ∧
      frame (both i i).state.devices = { f with dirty := f.dirty || decide bits.Nonempty }) ∧
    (bits.Nonempty →
      ((execute i b).state.cpu.flag = 1 ∨ (both i i).state.cpu.flag = 1) ∧
      ((∀ s ∈ bits, f.get (place s).1 (place s).2 = false) → (both i i).state.cpu.flag = 1)) := by
  intro both f bits place
  have hok {i j : Instruction} (hi : i.mnemonic = .draw) (hj : j.mnemonic = .draw)
      (h : (execute j b).result = .ok ()) : (both i j).result = .ok () :=
    (result_execute_draw hi hj b).trans h
  -- the two drawings of the same sprite, by what they do to the picture
  obtain ⟨hmemory, hindex, hx, hy⟩ := sprite_execute_draw hi hiSteady b
  have hfirst := drawn_of_ok hi hiOk
  have hsecond := drawn_of_ok hi (hok hi hi hiOk)
  rw [hmemory, hindex, hx, hy] at hsecond
  refine ⟨⟨hok hi hj hjOk, hok hj hi hiOk, ?_⟩, ⟨hok hi hi hiOk, ?_⟩, fun hbits => ?_⟩
  · simp only [both]
    rw [frame_execute_draws hi hj hjSteady, frame_execute_draws hj hi hiSteady,
      Frame.toggleAll_comm]
  · have hempty : (!(spritePixels i b).isEmpty) = decide bits.Nonempty := by
      rw [Bool.eq_iff_iff, Bool.not_eq_true', List.isEmpty_eq_false_iff, decide_eq_true_eq,
        spritePixels, rows_of_draw_eq_ok hi hiOk, Ne, List.map_eq_nil_iff, ← Ne,
        ← List.toFinset_nonempty_iff, Memory.toFinset_spriteList]
    simp only [both]
    rw [frame_execute_draws hi hi hiSteady, Frame.toggleAll_toggleAll, hempty]
  · have hagain (hunlit : ∀ s ∈ bits, f.get (place s).1 (place s).2 = false) :
        (both i i).state.cpu.flag = 1 :=
      hsecond.flag_one.mpr (hfirst.collision hbits hunlit)
    refine ⟨?_, hagain⟩
    by_cases hcollision : f.Collision bits (b.cpu.v (i.register 0)).toNat
        (b.cpu.v (i.register 1)).toNat
    · exact .inl (hfirst.flag_one.mpr hcollision)
    · refine .inr (hagain fun s hs => ?_)
      by_contra hlit
      exact hcollision (.inl ⟨s, hs, by simpa using hlit⟩)

/-- The digit zero on an unlit picture that is large enough for it, and its upper rows elsewhere. -/
theorem draws_invert_zero :
    let devices : Panel Frame Switches Silent Replay :=
      ⟨.blank 9 7 (by decide) (by decide), .none, ⟨⟩, .ofList []⟩
    let b : Board _ := ⟨(Cpu.powerOn.setV 1 2).setV 2 3, .powerOn, devices⟩
    let i : Instruction := ⟨.draw, 0xd015, [0, 1, 5]⟩
    let j : Instruction := ⟨.draw, 0xd233, [2, 3, 3]⟩
    i.mnemonic = .draw ∧ j.mnemonic = .draw ∧ i.Steady ∧ j.Steady ∧
      (execute i b).result = .ok () ∧ (execute j b).result = .ok () ∧
      frame (execute j (execute i b).state).state.devices =
        frame (execute i (execute j b).state).state.devices ∧
      frame (execute i (execute i b).state).state.devices = frame b.devices ∧
      (execute i (execute i b).state).state.cpu.flag = 1 := by
  intro devices b i j
  have hi : i.Steady := by decide
  have hj : j.Steady := by decide
  have hiOk : (execute i b).result = .ok () := (draw_eq_ok rfl b).mpr (by decide)
  have hjOk : (execute j b).result = .ok () := (draw_eq_ok rfl b).mpr (by decide)
  obtain ⟨⟨-, -, hswap⟩, ⟨-, htwice⟩, hflag⟩ := draws_invert rfl rfl hi hj b hiOk hjOk
  have hbits : (b.memory.spriteBits b.cpu.index.toNat (i.operand 2).toNat).Nonempty :=
    ⟨(0, 0), by decide +kernel⟩
  have hunlit (x y : Nat) : (frame b.devices).get x y = false :=
    Frame.get_clear (.blank 9 7 (by decide) (by decide)) x y
  beta_reduce at hswap htwice
  exact ⟨rfl, rfl, hi, hj, hiOk, hjOk, hswap, htwice, (hflag hbits).2 fun s _ => hunlit _ _⟩

end Board

end Chip8
