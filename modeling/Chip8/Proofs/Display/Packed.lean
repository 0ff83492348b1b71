import Mathlib.Algebra.Order.Floor.Div
import Mathlib.Data.Finset.Card
import Mathlib.Data.Nat.Bitwise
import Mathlib.Tactic.Lemma
import Chip8.Display.Frame

set_option autoImplicit false
set_option relaxedAutoImplicit false

/-!
# The packed pixels of a frame

The bytes of a frame are a row of bits, of which the first ones are its pixels. How an operation on
the frame changes these bits, and how the readers of the frame find them.

## Main definitions

* `Chip8.Frame.stored` — a bit of the bytes, whether it is a pixel or padding.
* `Chip8.Frame.Tidy` — a frame whose padding is unlit.

## Main results

* `Chip8.Frame.stored_flip`, `Chip8.Frame.get_toggle` — inverting a pixel inverts one bit.
* `Chip8.Frame.litCount_of_tidy` — the bits that are set are the pixels that are lit.
* `Chip8.Frame.planes_perm`, `Chip8.Frame.mem_plane` — the two planes share the pixels out.
-/

namespace Chip8

/-! ## One byte -/

lemma toNat_pixelMask (k : Nat) : (pixelMask k).toNat = 2 ^ (7 - k % 8) := by
  have hmask : ∀ j : Fin 8, ((0x80 : UInt8) >>> UInt8.ofNat j.val).toNat = 2 ^ (7 - j.val) := by
    decide
  exact hmask ⟨k % 8, Nat.mod_lt k (by decide)⟩

/-- Masking a byte is looking at one of its bits. -/
lemma and_pixelMask (b : UInt8) (k : Nat) :
    (b &&& pixelMask k != 0) = b.toNat.testBit (7 - k % 8) := by
  have hzero : b &&& pixelMask k = 0 ↔ b.toNat.testBit (7 - k % 8) = false := by
    rw [← UInt8.toNat_inj, UInt8.toNat_and, toNat_pixelMask, Nat.and_two_pow, UInt8.toNat_zero]
    cases b.toNat.testBit (7 - k % 8) <;> simp
  rw [Bool.eq_iff_iff, bne_iff_ne, Ne, hzero, Bool.not_eq_false]

/-- Inverting a byte under a mask is inverting one of its bits. -/
lemma testBit_xor_pixelMask (b : UInt8) (k j : Nat) :
    (b ^^^ pixelMask k).toNat.testBit j = (b.toNat.testBit j ^^ decide (j = 7 - k % 8)) := by
  rw [UInt8.toNat_xor, toNat_pixelMask, Nat.testBit_xor, Nat.testBit_two_pow]
  simp only [eq_comm]

/-- The bits of bytes, the highest bit of the first byte first, are as many as the bytes have
together. -/
lemma countP_bits (bytes : List UInt8) :
    (List.range (8 * bytes.length)).countP
        (fun n => (bytes[n / 8]?.getD 0).toNat.testBit (7 - n % 8)) =
      bytes.foldr (fun b count => bitCount b + count) 0 := by
  induction bytes with
  | nil => rfl
  | cons b rest ih =>
    have hfirst : (List.range 8).countP
          (fun n => ((b :: rest)[n / 8]?.getD 0).toNat.testBit (7 - n % 8)) = bitCount b := by
      -- the bits of one byte are counted from the other end
      have hreverse : (List.range 8).map (7 - ·) = (List.range 8).reverse := by decide
      calc
        _ = (List.range 8).countP (fun n => b.toNat.testBit (7 - n)) := by
          apply List.countP_congr
          intro n hn
          have hlt := List.mem_range.mp hn
          simp [Nat.div_eq_of_lt hlt, Nat.mod_eq_of_lt hlt]
        _ = ((List.range 8).map (7 - ·)).countP b.toNat.testBit := List.countP_map.symm
        _ = bitCount b := by rw [hreverse, List.countP_reverse, bitCount]
    have hrest : ∀ n, (8 + n) / 8 = n / 8 + 1 ∧ (8 + n) % 8 = n % 8 := by omega
    rw [List.length_cons, Nat.mul_add, Nat.mul_one, Nat.add_comm, List.range_add,
      List.countP_append, hfirst, List.countP_map, List.foldr_cons, ← ih]
    congr 1
    apply List.countP_congr
    intro n _
    simp [hrest]

namespace Frame

variable {f : Frame} {k n x y : Nat}

/-! ## Where a pixel is -/

/-- Two places are the same pixel if they are the same but for the size of the picture. -/
lemma position_eq_iff {x' y' : Nat} : f.position x y = f.position x' y' ↔
    x % f.width = x' % f.width ∧ y % f.height = y' % f.height := by
  have hx := Nat.mod_lt x f.width_pos
  have hx' := Nat.mod_lt x' f.width_pos
  constructor
  · intro h
    unfold position at h
    have hcolumn := congrArg (· % f.width) h
    have hrow := congrArg (· / f.width) h
    simp only [Nat.mul_add_mod_self_right, Nat.mod_eq_of_lt hx, Nat.mod_eq_of_lt hx'] at hcolumn
    simp only [Nat.add_comm (_ * _), Nat.add_mul_div_right _ _ f.width_pos, Nat.div_eq_of_lt hx,
      Nat.div_eq_of_lt hx', Nat.zero_add] at hrow
    exact ⟨hcolumn, hrow⟩
  · rintro ⟨hcolumn, hrow⟩
    rw [position, position, hcolumn, hrow]

lemma position_mod (f : Frame) (x y : Nat) :
    f.position (x % f.width) (y % f.height) = f.position x y := by
  rw [position, position, Nat.mod_mod, Nat.mod_mod]

/-- Pixel number `k` is in column `k % width` and row `k / width`. -/
lemma position_mod_div (h : k < f.area) : f.position (k % f.width) (k / f.width) = k := by
  have hrow : k / f.width < f.height := Nat.div_lt_of_lt_mul h
  rw [position, Nat.mod_eq_of_lt hrow, Nat.mod_mod, Nat.mul_comm]
  exact Nat.div_add_mod k f.width

lemma position_of_lt (hx : x < f.width) (hy : y < f.height) : f.position x y = y * f.width + x := by
  rw [position, Nat.mod_eq_of_lt hx, Nat.mod_eq_of_lt hy]

/-! ## The bits of the bytes -/

/-- Bit number `n` of the bytes, counted from the highest bit of the first byte on. There may be
more of them than pixels. -/
def stored (f : Frame) (n : Nat) : Bool :=
  (f.bytes.toList[n / 8]?.getD 0).toNat.testBit (7 - n % 8)

/-- All bits behind the pixels are unlit. -/
def Tidy (f : Frame) : Prop := ∀ n, f.area ≤ n → f.stored n = false

lemma length_bytes (f : Frame) : f.bytes.toList.length = packedSize f.area :=
  Vector.length_toList

/-- There are as many bytes as the pixels need, and no more. -/
lemma length_bytes_eq_ceilDiv (f : Frame) : f.bytes.toList.length = f.area ⌈/⌉ 8 := by
  rw [length_bytes, Nat.ceilDiv_eq_add_pred_div]
  rfl

lemma getElem?_bytes (h : k / 8 < packedSize f.area) :
    f.bytes.toList[k / 8]? = some f.bytes[k / 8] := by
  rw [List.getElem?_eq_getElem (by rw [length_bytes]; exact h), Vector.getElem_toList]

lemma bit_eq_stored (f : Frame) (h : k < f.area) : f.bit k h = f.stored k := by
  rw [bit, stored, getElem?_bytes (div_lt_packedSize h), and_pixelMask]
  rfl

lemma get_eq_stored (f : Frame) (x y : Nat) : f.get x y = f.stored (f.position x y) :=
  f.bit_eq_stored _

/-- **Inverting a pixel inverts one bit** of the bytes and no other. -/
lemma stored_flip (f : Frame) (h : k < f.area) (n : Nat) :
    (f.flip k h).stored n = (f.stored n ^^ decide (n = k)) := by
  have hk : k / 8 < packedSize f.area := div_lt_packedSize h
  have hlength : k / 8 < f.bytes.toList.length := by
    rw [length_bytes]
    exact hk
  have hbytes : (f.flip k h).bytes.toList =
      f.bytes.toList.set (k / 8) (f.bytes[k / 8] ^^^ pixelMask k) := by
    rw [flip, Vector.toList_set]
  rw [stored, hbytes]
  by_cases hbyte : k / 8 = n / 8
  · -- in the byte that has been changed, the bit decides
    have hbit : 7 - n % 8 = 7 - k % 8 ↔ n = k := by omega
    rw [← hbyte, List.getElem?_set_self hlength, Option.getD_some, testBit_xor_pixelMask,
      decide_eq_decide.mpr hbit, stored, ← hbyte, getElem?_bytes hk, Option.getD_some]
  · have hne : n ≠ k := fun heq => hbyte (by rw [heq])
    rw [List.getElem?_set_ne hbyte, decide_eq_false hne, Bool.xor_false, stored]

@[simp]
lemma stored_clear (f : Frame) (n : Nat) : f.clear.stored n = false := by
  have hbyte : f.clear.bytes.toList[n / 8]?.getD 0 = 0 := by
    change (Vector.replicate _ (0 : UInt8)).toList[n / 8]?.getD 0 = 0
    rw [Vector.toList_replicate, List.getElem?_replicate]
    split <;> rfl
  rw [stored, hbyte]
  exact Nat.zero_testBit _

/-- Inverting a pixel changes what is read there and nowhere else. -/
lemma get_toggle (f : Frame) (x' y' x y : Nat) :
    (f.toggle x' y').get x y =
      (f.get x y ^^ decide (f.position x y = f.position x' y')) := by
  rw [get_eq_stored, get_eq_stored]
  exact f.stored_flip (f.position_lt x' y') _

@[simp]
lemma get_clear (f : Frame) (x y : Nat) : f.clear.get x y = false := by
  rw [get_eq_stored, stored_clear]

/-! ## Padding -/

lemma tidy_clear (f : Frame) : f.clear.Tidy := fun n _ => f.stored_clear n

/-- A pixel is not padding. -/
lemma Tidy.toggle (h : f.Tidy) (x y : Nat) : (f.toggle x y).Tidy := by
  intro n hn
  have hne : n ≠ f.position x y := Nat.ne_of_gt (Nat.lt_of_lt_of_le (f.position_lt x y) hn)
  rw [Frame.toggle, stored_flip, h n hn, decide_eq_false hne, Bool.xor_false]

/-! ## Readers -/

/-- The bits that are set are as many as the pixels that are lit, as the padding is not. -/
lemma litCount_of_tidy (h : f.Tidy) : f.litCount = (List.range f.area).countP f.stored := by
  have hcount : f.litCount = (List.range (8 * packedSize f.area)).countP f.stored := by
    rw [litCount, ← countP_bits, length_bytes]
    rfl
  obtain ⟨padding, hpadding⟩ : ∃ padding, 8 * packedSize f.area = f.area + padding :=
    ⟨8 * packedSize f.area - f.area, by unfold packedSize; omega⟩
  have hunlit : ((List.range padding).map (f.area + ·)).countP f.stored = 0 := by
    rw [List.countP_eq_zero]
    intro n hn
    obtain ⟨j, -, rfl⟩ := List.mem_map.mp hn
    rw [h _ (Nat.le_add_right _ _)]
    exact Bool.false_ne_true
  rw [hcount, hpadding, List.range_add, List.countP_append, hunlit, Nat.add_zero]

/-- The point of the canvas that stands for pixel number `k`. -/
def point (f : Frame) (k : Nat) : Int × Int :=
  (((k % f.width : Nat) : Int), -((k / f.width : Nat) : Int))

lemma point_injective (f : Frame) : Function.Injective f.point := by
  intro k n h
  simp only [point, Prod.mk.injEq, Int.neg_inj, Int.natCast_inj] at h
  rw [← Nat.div_add_mod k f.width, ← Nat.div_add_mod n f.width, h.1, h.2]

lemma plane_eq (f : Frame) (lit : Bool) :
    f.plane lit = ((List.range f.area).filter fun k => f.stored k == lit).map f.point := by
  have hrange : List.range f.area = (List.finRange f.area).map Fin.val := by simp
  rw [plane, hrange, List.filter_map, List.map_map]
  congr 1
  apply List.filter_congr
  intro k _
  rw [bit_eq_stored]
  rfl

/-- **The two planes share the pixels out**: together they have the point of each once. -/
lemma planes_perm (f : Frame) :
    (f.plane true ++ f.plane false).Perm ((List.range f.area).map f.point) := by
  rw [plane_eq, plane_eq, ← List.map_append]
  apply List.Perm.map
  have hsplit := List.filter_append_perm f.stored (List.range f.area)
  simpa using hsplit

lemma nodup_planes (f : Frame) : (f.plane true ++ f.plane false).Nodup := by
  rw [f.planes_perm.nodup_iff]
  exact List.nodup_range.map f.point_injective

/-- A plane has the points of the pixels that are lit, or of those that are not. -/
lemma mem_plane {lit : Bool} (hx : x < f.width) (hy : y < f.height) :
    ((x : Int), -(y : Int)) ∈ f.plane lit ↔ f.get x y = lit := by
  have hpoint : f.point (f.position x y) = ((x : Int), -(y : Int)) := by
    rw [point, position_of_lt hx hy, Nat.mul_add_mod_self_right, Nat.mod_eq_of_lt hx, Nat.add_comm,
      Nat.add_mul_div_right _ _ f.width_pos, Nat.div_eq_of_lt hx, Nat.zero_add]
  rw [plane_eq, ← hpoint, List.mem_map_of_injective f.point_injective, List.mem_filter,
    List.mem_range, beq_iff_eq, ← get_eq_stored]
  exact and_iff_right (f.position_lt x y)

end Frame

end Chip8
