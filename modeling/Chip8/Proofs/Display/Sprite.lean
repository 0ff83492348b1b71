import Mathlib.Data.Finset.Prod
import Mathlib.Data.List.Nodup
import Mathlib.Logic.Function.Iterate
import Chip8.Display.Terminal
import Chip8.Memory
import Chip8.Panel
import Chip8.Proofs.Display.Packed
import Chip8.Scripted

set_option autoImplicit false
set_option relaxedAutoImplicit false

/-!
# Sprites on a frame

A sprite is drawn bit by bit, and a pixel on which several of its bits fall is inverted several
times. What comes of all the bits together can be told without their order.

## Main definitions

* `Chip8.Framed` — displays whose picture is a frame.
* `Chip8.Frame.toggleAll`, `Chip8.Frame.collides` — pixels inverted one after the other, and whether
  one of them is lit when its turn comes.
* `Chip8.Memory.spriteBits` — the bits of a sprite that are set.
* `Chip8.Frame.Drawn` — the picture and the flag after a sprite has been drawn.

## Main results

* `Chip8.Frame.get_toggleAll` — a pixel is inverted as often as it occurs.
* `Chip8.Frame.collides_iff` — a pixel is lit when its turn comes if it was lit before, or if it
  occurs twice.
* `Chip8.Frame.drawn_toggleAll` — inverting the pixels of a sprite is drawing it.
-/

namespace Chip8

/-! ## Displays that draw on a frame -/

/-- A display whose picture is a frame: what it draws and clears, it draws and clears there. -/
class Framed (δ : Type) [Display δ] where
  /-- The picture. -/
  frame : δ → Frame
  /-- What is drawn is drawn there, and a pixel that was lit is one that was lit there. -/
  draw_eq : ∀ d x y bit,
    (frame d).draw x y bit = ((Display.draw d x y bit).1, frame (Display.draw d x y bit).2)
  /-- What is cleared is cleared there. -/
  clear_eq : ∀ d, (frame d).clear = frame (Display.clear d)

instance : Framed Frame := ⟨id, fun _ _ _ _ => rfl, fun _ => rfl⟩

instance {τ : Type} [Painter τ] : Framed (Terminal τ) :=
  ⟨Terminal.frame, fun _ _ _ _ => rfl, fun _ => rfl⟩

instance : Framed Scripted.Screen := ⟨Scripted.Screen.frame, fun _ _ _ _ => rfl, fun _ => rfl⟩

/-- The picture of a panel is that of its display. -/
instance {D K S R : Type} [Display D] [Keypad K] [Speaker S] [RandomSource R] [Framed D] :
    Framed (Panel D K S R) :=
  ⟨fun p => Framed.frame p.display, fun p => Framed.draw_eq p.display,
    fun p => Framed.clear_eq p.display⟩

/-! ## Inverting pixels one after the other -/

namespace Frame

variable {f : Frame} {x y : Nat} {p : Nat × Nat} {pixels : List (Nat × Nat)}

/-- The frame with pixels inverted one after the other. -/
def toggleAll (f : Frame) (pixels : List (Nat × Nat)) : Frame :=
  pixels.foldl (fun f p => f.toggle p.1 p.2) f

/-- Of pixels that are inverted one after the other, one is lit when its turn comes. -/
def collides (f : Frame) : List (Nat × Nat) → Bool
  | [] => false
  | p :: rest => f.get p.1 p.2 || (f.toggle p.1 p.2).collides rest

lemma toggleAll_cons (f : Frame) (p : Nat × Nat) (rest : List (Nat × Nat)) :
    f.toggleAll (p :: rest) = (f.toggle p.1 p.2).toggleAll rest := rfl

lemma toggleAll_append (f : Frame) (first rest : List (Nat × Nat)) :
    f.toggleAll (first ++ rest) = (f.toggleAll first).toggleAll rest :=
  List.foldl_append

lemma collides_append (f : Frame) (first rest : List (Nat × Nat)) :
    f.collides (first ++ rest) = (f.collides first || (f.toggleAll first).collides rest) := by
  induction first generalizing f with
  | nil => rfl
  | cons p first ih => rw [List.cons_append, collides, collides, ih, toggleAll_cons, Bool.or_assoc]

@[simp]
lemma position_toggle (f : Frame) (x' y' x y : Nat) :
    (f.toggle x' y').position x y = f.position x y := rfl

lemma size_toggleAll (f : Frame) (pixels : List (Nat × Nat)) :
    (f.toggleAll pixels).width = f.width ∧ (f.toggleAll pixels).height = f.height := by
  induction pixels generalizing f with
  | nil => exact ⟨rfl, rfl⟩
  | cons p rest ih => exact ih (f.toggle p.1 p.2)

/-- **A pixel is inverted as often as it occurs**, under whatever coordinates. -/
lemma get_toggleAll (f : Frame) (pixels : List (Nat × Nat)) (x y : Nat) :
    (f.toggleAll pixels).get x y =
      Bool.not^[pixels.countP fun p => f.position p.1 p.2 = f.position x y] (f.get x y) := by
  induction pixels generalizing f with
  | nil => rfl
  | cons p rest ih =>
    rw [toggleAll_cons, ih, get_toggle, List.countP_cons]
    by_cases h : f.position p.1 p.2 = f.position x y
    · rw [decide_eq_true h, if_pos rfl, decide_eq_true h.symm, Bool.xor_true,
        Function.iterate_succ_apply]
      rfl
    · rw [decide_eq_false h, if_neg Bool.false_ne_true, decide_eq_false (Ne.symm h), Bool.xor_false,
        Nat.add_zero]
      rfl

/-- **A pixel is lit when its turn comes** if one of the pixels was lit before, or if one occurs
twice: the first time then lights it, or it was lit already. -/
lemma collides_iff (f : Frame) (pixels : List (Nat × Nat)) : f.collides pixels ↔
    (∃ p ∈ pixels, f.get p.1 p.2) ∨ ¬ (pixels.map fun p => f.position p.1 p.2).Nodup := by
  induction pixels generalizing f with
  | nil => simp [collides]
  | cons p rest ih =>
    rw [collides, Bool.or_eq_true, ih, List.exists_mem_cons_iff, List.map_cons, List.nodup_cons,
      List.mem_map]
    simp only [position_toggle, get_toggle]
    by_cases hp : f.get p.1 p.2
    · simp only [hp, true_or]
    · -- an unlit pixel is lit from now on, so its next turn finds it lit
      have hlater : ∀ q : Nat × Nat,
          (f.get q.1 q.2 ^^ decide (f.position q.1 q.2 = f.position p.1 p.2)) = true ↔
            f.get q.1 q.2 ∨ f.position q.1 q.2 = f.position p.1 p.2 := by
        intro q
        by_cases hq : f.position q.1 q.2 = f.position p.1 p.2
        · have hunlit : f.get q.1 q.2 = false := by
            rw [get_eq_stored, hq, ← get_eq_stored]
            exact Bool.eq_false_iff.mpr hp
          simp [hq, hunlit]
        · simp [hq]
      simp only [hlater]
      grind

end Frame

/-! ## The bits of a sprite -/

namespace Memory

/-- The bit in a column of the row of a sprite that lies at an address. The highest bit comes
first. -/
def spriteBit (m : Memory) (address column : Nat) : Bool :=
  (m.bytes[address]?.getD 0).toNat.testBit (7 - column)

/-- The bits that are set in the sprite of so many rows from an address on, by row and column. -/
def spriteBits (m : Memory) (start rows : Nat) : Finset (Nat × Nat) :=
  (Finset.range rows ×ˢ Finset.range 8).filter fun b => m.spriteBit (start + b.1) b.2

/-- The columns of a row in which a bit is set, from the left. -/
def setColumns (m : Memory) (address : Nat) : List Nat :=
  (List.range 8).filter (m.spriteBit address)

/-- The bits that are set in a sprite, in the order in which they are drawn. -/
def spriteList (m : Memory) (start rows : Nat) : List (Nat × Nat) :=
  (List.range rows).flatMap fun row => (m.setColumns (start + row)).map (Prod.mk row)

variable {m : Memory} {start rows : Nat}

lemma spriteList_succ (m : Memory) (start rows : Nat) :
    m.spriteList start (rows + 1) = (m.setColumns start).map (Prod.mk 0) ++
      (m.spriteList (start + 1) rows).map fun b => (b.1 + 1, b.2) := by
  have hmap : ∀ row, ((m.setColumns (start + 1 + row)).map (Prod.mk row)).map
      (fun b => (b.1 + 1, b.2)) = (m.setColumns (start + (row + 1))).map (Prod.mk (row + 1)) := by
    intro row
    rw [List.map_map, Nat.add_right_comm, Nat.add_assoc]
    rfl
  rw [spriteList, List.range_succ_eq_map, List.flatMap_cons, spriteList, List.map_flatMap,
    List.flatMap_map]
  simp only [hmap]
  rfl

lemma nodup_spriteList (m : Memory) (start rows : Nat) : (m.spriteList start rows).Nodup := by
  rw [spriteList, List.nodup_flatMap]
  constructor
  · intro row _
    exact (List.nodup_range.filter _).map (Prod.mk_right_injective row)
  · apply List.nodup_range.imp
    intro row row' hne b hb hb'
    obtain ⟨_, -, rfl⟩ := List.mem_map.mp hb
    obtain ⟨_, -, heq⟩ := List.mem_map.mp hb'
    exact hne (congrArg Prod.fst heq).symm

lemma toFinset_spriteList (m : Memory) (start rows : Nat) :
    (m.spriteList start rows).toFinset = m.spriteBits start rows := by
  ext ⟨row, column⟩
  simp only [spriteList, setColumns, spriteBits, List.mem_toFinset, List.mem_flatMap,
    List.mem_range, List.mem_map, List.mem_filter, Prod.mk.injEq, Finset.mem_filter,
    Finset.mem_product, Finset.mem_range]
  constructor
  · rintro ⟨_, hrow, _, ⟨hcolumn, hset⟩, rfl, rfl⟩
    exact ⟨⟨hrow, hcolumn⟩, hset⟩
  · rintro ⟨⟨hrow, hcolumn⟩, hset⟩
    exact ⟨row, hrow, column, ⟨hcolumn, hset⟩, rfl, rfl⟩

lemma mem_spriteList {b : Nat × Nat} :
    b ∈ m.spriteList start rows ↔ b ∈ m.spriteBits start rows := by
  rw [← toFinset_spriteList, List.mem_toFinset]

/-- Every bit that is set is drawn once. -/
lemma countP_spriteList (m : Memory) (start rows : Nat) (p : Nat × Nat → Prop) [DecidablePred p] :
    (m.spriteList start rows).countP (fun b => p b) =
      ((m.spriteBits start rows).filter p).card := by
  have hnodup := (m.nodup_spriteList start rows).filter fun b => decide (p b)
  rw [List.countP_eq_length_filter, ← List.toFinset_card_of_nodup hnodup, List.toFinset_filter,
    toFinset_spriteList]
  simp only [decide_eq_true_eq]

end Memory

/-! ## Drawing a sprite -/

namespace Frame

variable {bits : Finset (Nat × Nat)} {left top : Nat}

/-- The pixel that bit `b` of a sprite at column `left` and row `top` falls on. -/
def place (left top : Nat) (b : Nat × Nat) : Nat × Nat := (left + b.2, top + b.1)

/-- Two places are the same pixel, as the picture goes round. -/
def SamePixel (f : Frame) (p q : Nat × Nat) : Prop :=
  p.1 % f.width = q.1 % f.width ∧ p.2 % f.height = q.2 % f.height

instance (f : Frame) (p q : Nat × Nat) : Decidable (f.SamePixel p q) :=
  inferInstanceAs (Decidable (_ ∧ _))

lemma position_eq_iff_samePixel {f : Frame} {p q : Nat × Nat} :
    f.position p.1 p.2 = f.position q.1 q.2 ↔ f.SamePixel p q := position_eq_iff

/-- One of the bits falls on a pixel that is lit, or two of them fall on the same pixel. -/
def Collision (f : Frame) (bits : Finset (Nat × Nat)) (left top : Nat) : Prop :=
  (∃ b ∈ bits, f.get (place left top b).1 (place left top b).2) ∨
    ∃ b ∈ bits, ∃ b' ∈ bits, b ≠ b' ∧ f.SamePixel (place left top b) (place left top b')

/-- The frame `f'` and the flag after the bits of a sprite have been drawn on `f` at column `left`
and row `top`. -/
structure Drawn (f : Frame) (bits : Finset (Nat × Nat)) (left top : Nat) (f' : Frame)
    (flag : UInt8) : Prop where
  /-- The picture has the same number of columns. -/
  width_eq : f'.width = f.width
  /-- It has the same number of rows. -/
  height_eq : f'.height = f.height
  /-- Every pixel is inverted once for each bit that falls on it. -/
  get_eq : ∀ x y, f'.get x y =
    Bool.not^[(bits.filter fun b => f.SamePixel (place left top b) (x, y)).card] (f.get x y)
  /-- The flag is set when there is a collision. -/
  flag_one : flag = 1 ↔ f.Collision bits left top
  /-- It is clear when there is none. -/
  flag_zero : flag = 0 ↔ ¬ f.Collision bits left top

/-- Inverting the pixels of a sprite one after the other collides when there is a collision. -/
lemma collides_spriteList (f : Frame) (m : Memory) (start rows left top : Nat) :
    f.collides ((m.spriteList start rows).map (place left top)) ↔
      f.Collision (m.spriteBits start rows) left top := by
  have hnodup : ¬ (((m.spriteList start rows).map (place left top)).map
        fun p => f.position p.1 p.2).Nodup ↔
      ∃ b ∈ m.spriteBits start rows, ∃ b' ∈ m.spriteBits start rows,
        b ≠ b' ∧ f.SamePixel (place left top b) (place left top b') := by
    rw [List.map_map, List.nodup_map_iff_inj_on (m.nodup_spriteList start rows)]
    push Not
    simp only [Memory.mem_spriteList, Function.comp_apply, position_eq_iff_samePixel, and_comm]
  rw [collides_iff, hnodup]
  simp only [List.mem_map, exists_exists_and_eq_and, Memory.mem_spriteList, Collision]

/-- **Inverting the pixels of a sprite one after the other is drawing it.** -/
lemma drawn_toggleAll (f : Frame) (m : Memory) (start rows left top : Nat) {flag : UInt8}
    (hflag : flag =
      if f.collides ((m.spriteList start rows).map (place left top)) then 1 else 0) :
    f.Drawn (m.spriteBits start rows) left top
      (f.toggleAll ((m.spriteList start rows).map (place left top))) flag where
  width_eq := (f.size_toggleAll _).1
  height_eq := (f.size_toggleAll _).2
  get_eq x y := by
    rw [get_toggleAll, List.countP_map, ← Memory.countP_spriteList]
    simp only [Function.comp_def, ← position_eq_iff_samePixel]
  flag_one := by
    rw [hflag, ← collides_spriteList]
    split <;> simp [*]
  flag_zero := by
    rw [hflag, ← collides_spriteList]
    split <;> simp [*]

end Frame

end Chip8
