import Chip8.Proofs.Display.Sprite
import Chip8.Proofs.Instruction.Failure

set_option autoImplicit false
set_option relaxedAutoImplicit false

/-!
# What the drawing instruction draws

A sprite is read from memory row by row and drawn pixel by pixel, with a flag that is set as soon as
a pixel collides. All of it together is one drawing of the bits of the sprite; when memory comes to
its end on the way, it is one drawing of the rows before that.

## Main definitions

* `Chip8.Board.spritePixels` — the pixels that a drawing instruction inverts, in their order.

## Main results

* `Chip8.Board.drawRow_eq`, `Chip8.Board.drawRows_eq` — one row, and several.
* `Chip8.Board.execute_draw` — the whole instruction.
-/

namespace Chip8

open Framed (frame)

/-! ## One pixel -/

namespace Framed

variable {δ : Type} [Display δ] [Framed δ]

lemma draw_true (d : δ) (x y : Nat) : (Display.draw d x y true).1 = (frame d).get x y ∧
    frame (Display.draw d x y true).2 = (frame d).toggle x y := by
  have h : ((frame d).get x y, (frame d).toggle x y) = _ := draw_eq d x y true
  exact ⟨(congrArg Prod.fst h).symm, (congrArg Prod.snd h).symm⟩

/-- A bit that is not set is not drawn. -/
lemma draw_false (d : δ) (x y : Nat) : (Display.draw d x y false).1 = false ∧
    frame (Display.draw d x y false).2 = frame d := by
  have h : (false, frame d) = _ := draw_eq d x y false
  exact ⟨(congrArg Prod.fst h).symm, (congrArg Prod.snd h).symm⟩

end Framed

namespace Board

/-- The pixels that a drawing instruction inverts, one after the other: those of the rows that lie
in memory. -/
def spritePixels {δ : Type} (i : Instruction) (b : Board δ) : List (Nat × Nat) :=
  (b.memory.spriteList b.cpu.index.toNat
    (min (i.operand 2).toNat (Memory.size - b.cpu.index.toNat))).map
      (Frame.place (b.cpu.v (i.register 0)).toNat (b.cpu.v (i.register 1)).toNat)

variable {δ : Type} [Devices δ] [Framed δ]

/-! ## One row -/

/-- Drawing at some columns is inverting the pixels at those of them where a bit is set. -/
lemma foldl_draw (left y : Nat) (bit : Nat → Bool) (columns : List Nat) (hit : Bool) (d : δ) :
    let pixels := (columns.filter bit).map fun column => (left + column, y)
    let drawn := columns.foldl
      (fun (hit, d) column =>
        let (h, d) := Display.draw d (left + column) y (bit column)
        (hit || h, d)) (hit, d)
    drawn.1 = (hit || (frame d).collides pixels) ∧ frame drawn.2 = (frame d).toggleAll pixels := by
  induction columns generalizing hit d with
  | nil => exact ⟨(Bool.or_false hit).symm, rfl⟩
  | cons column columns ih =>
    intro pixels drawn
    obtain ⟨hhit, hframe⟩ := ih (hit || (Display.draw d (left + column) y (bit column)).1)
      (Display.draw d (left + column) y (bit column)).2
    cases hbit : bit column with
    | false =>
      obtain ⟨hunlit, hsame⟩ := Framed.draw_false d (left + column) y
      have hpixels : pixels = (columns.filter bit).map fun column => (left + column, y) := by
        simp only [pixels, List.filter_cons, hbit, Bool.false_eq_true, if_false]
      rw [hbit, hunlit, hsame, Bool.or_false, ← hpixels] at hhit
      rw [hbit, hunlit, hsame, Bool.or_false, ← hpixels] at hframe
      simp only [drawn, List.foldl_cons, hbit, hunlit, Bool.or_false]
      exact ⟨hhit, hframe⟩
    | true =>
      obtain ⟨hlit, hflip⟩ := Framed.draw_true d (left + column) y
      have hpixels : pixels = (left + column, y) ::
          (columns.filter bit).map fun column => (left + column, y) := by
        simp only [pixels, List.filter_cons, hbit, if_true, List.map_cons]
      rw [hbit, hlit, hflip, Bool.or_assoc] at hhit
      rw [hbit, hlit, hflip] at hframe
      simp only [drawn, List.foldl_cons, hbit, hlit, hpixels]
      exact ⟨hhit, hframe⟩

/-- The pixels at the columns where a bit of a row is set are inverted. -/
lemma drawRow_eq (left y : Nat) {m : Memory} {address : Nat} {line : UInt8}
    (h : m.bytes[address]? = some line) (d : δ) :
    let pixels := (m.setColumns address).map fun column => (left + column, y)
    (drawRow left y line d).1 = (frame d).collides pixels ∧
      frame (drawRow left y line d).2 = (frame d).toggleAll pixels := by
  have hcolumns : m.setColumns address =
      (List.range 8).filter fun column => line &&& (0x80 >>> UInt8.ofNat column) != 0 := by
    apply List.filter_congr
    intro column hcolumn
    have hbit := and_pixelMask line column
    rw [pixelMask, Nat.mod_eq_of_lt (List.mem_range.mp hcolumn)] at hbit
    rw [hbit, Memory.spriteBit, h, Option.getD_some]
  rw [hcolumns]
  have hfold := foldl_draw left y (fun column => line &&& (0x80 >>> UInt8.ofNat column) != 0)
    (List.range 8) false d
  simp only [Bool.false_or] at hfold
  exact hfold

/-! ## Several rows -/

/-- A sprite in memory is its first row and a sprite from the next address on, one row below. -/
lemma place_spriteList_succ (m : Memory) (start rows left top : Nat) :
    (m.spriteList start (rows + 1)).map (Frame.place left top) =
      ((m.setColumns start).map fun column => (left + column, top)) ++
        (m.spriteList (start + 1) rows).map (Frame.place left (top + 1)) := by
  rw [Memory.spriteList_succ, List.map_append, List.map_map, List.map_map]
  congr 1
  apply List.map_congr_left
  intro b _
  simp only [Function.comp_apply, Frame.place, Prod.mk.injEq, true_and]
  omega

/-- The board when one row of a sprite has been drawn. -/
def afterRow (left top : Nat) (line : UInt8) (b : Board δ) : Board δ :=
  let (hit, d) := drawRow left top line b.devices
  { b with devices := d, cpu := if hit then b.cpu.setFlag true else b.cpu }

omit [Framed δ] in
lemma flag_afterRow (left top : Nat) (line : UInt8) (b : Board δ) :
    (afterRow left top line b).cpu.flag =
      if (drawRow left top line b.devices).1 then 1 else b.cpu.flag := by
  rw [afterRow]
  dsimp only
  split
  · rw [Cpu.setFlag, Cpu.flag, Cpu.v_setV, if_pos rfl]
    rfl
  · rfl

omit [Framed δ] in
/-- A row that lies in memory is drawn, and the others after it. -/
lemma state_drawRows_succ {address : UInt16} {line : UInt8} {b : Board δ}
    (h : b.memory.bytes[address.toNat]? = some line) (left top count : Nat) :
    (drawRows left top address (count + 1) b).state =
      (drawRows left (top + 1) (address + 1) count (afterRow left top line b)).state := by
  have hfetch : fetchByte address b = ⟨b, .ok line, []⟩ := by
    rw [fetchByte, Action.query, Memory.getByte_eq_ok.mpr h]
  rw [drawRows, Action.bind_of_ok hfetch, Action.modify_bind]
  rfl

omit [Framed δ] in
/-- Where memory has come to its end, nothing is drawn. -/
lemma state_drawRows_of_le {address : UInt16} (h : Memory.size ≤ address.toNat)
    (left top count : Nat) (b : Board δ) : (drawRows left top address count b).state = b := by
  cases count with
  | zero => rfl
  | succ count =>
    have hfetch : fetchByte address b = ⟨b, .error (.outOfRange address.toNat 1), []⟩ := by
      rw [fetchByte, Action.query, b.memory.getByte_of_le h]
    rw [drawRows, Action.bind_of_error hfetch]

/-- **Drawing rows is inverting the pixels of those that lie in memory**, and sets the flag if one
of them collides.

**Proof sketch.** Induction on the rows. A row that lies in memory is drawn, and its address is so
small that the next one does not wrap; at the first that does not, the drawing ends. -/
lemma drawRows_eq (left top : Nat) (address : UInt16) (count : Nat) (b : Board δ) :
    let rows := min count (Memory.size - address.toNat)
    let pixels := (b.memory.spriteList address.toNat rows).map (Frame.place left top)
    let b' := (drawRows left top address count b).state
    frame b'.devices = (frame b.devices).toggleAll pixels ∧
      b'.cpu.flag = if (frame b.devices).collides pixels then 1 else b.cpu.flag := by
  induction count generalizing top address b with
  | zero =>
    intro rows pixels b'
    have hpixels : pixels = [] := by simp [pixels, rows, Memory.spriteList]
    rw [hpixels]
    exact ⟨rfl, rfl⟩
  | succ count ih =>
    intro rows pixels b'
    rcases Nat.lt_or_ge address.toNat Memory.size with h | h
    · have hnext := Memory.toNat_add_one h
      have hline : b.memory.bytes[address.toNat]? = some b.memory.bytes[address.toNat] :=
        Vector.getElem?_eq_getElem h
      generalize b.memory.bytes[address.toNat] = line at hline
      -- the first row, and the others on the board that it leaves
      obtain ⟨hhit, hrow⟩ := drawRow_eq left top hline b.devices
      obtain ⟨hframe, hflag⟩ := ih (top + 1) (address + 1) (afterRow left top line b)
      rw [← state_drawRows_succ hline, hnext] at hframe hflag
      rw [flag_afterRow] at hflag
      have hrows : rows = min count (Memory.size - (address.toNat + 1)) + 1 := by
        simp only [rows]
        omega
      have hpixels := place_spriteList_succ b.memory address.toNat
        (min count (Memory.size - (address.toNat + 1))) left top
      rw [← hrows] at hpixels
      change pixels = _ at hpixels
      rw [hpixels, Frame.toggleAll_append, Frame.collides_append, ← hhit, ← hrow]
      refine ⟨hframe, hflag.trans ?_⟩
      cases (drawRow left top line b.devices).1 with
      | false =>
        rw [Bool.false_or, if_neg Bool.false_ne_true]
        rfl
      | true => simp only [Bool.true_or, if_true, ite_self]
    · have hpixels : pixels = [] := by
        simp [pixels, rows, Memory.spriteList, Nat.sub_eq_zero_of_le h]
      have hstate : b' = b := state_drawRows_of_le h left top (count + 1) b
      rw [hpixels, hstate]
      exact ⟨rfl, rfl⟩

/-! ## The instruction -/

variable {i : Instruction}

/-- The instruction clears the flag and draws its rows. -/
lemma execute_draw_eq (hi : i.mnemonic = .draw) (b : Board δ) :
    let b' := (execute i b).state
    frame b'.devices = (frame b.devices).toggleAll (spritePixels i b) ∧
      b'.cpu.flag = if (frame b.devices).collides (spritePixels i b) then 1 else 0 := by
  intro b'
  let cleared := b.mapCpu (·.setFlag false)
  let drawing : Action (Board δ) Unit := drawRows (b.cpu.v (i.register 0)).toNat
    (b.cpu.v (i.register 1)).toNat b.cpu.index (i.operand 2).toNat
  have hperform : (perform i b).state = (drawing cleared).state := by
    simp only [perform, hi, drawSprite, Action.get_bind]
    rw [modifyCpu, Action.modify_bind]
    rcases Action.state_bind drawing (fun _ => pure Flow.next) cleared with h | ⟨_, h⟩ <;> exact h
  have hdevices : b'.devices = (drawing cleared).state.devices :=
    (part_execute Board.devices (fun _ _ => rfl) i b).trans (congrArg Board.devices hperform)
  have hflag : b'.cpu.flag = (drawing cleared).state.cpu.flag :=
    (part_execute (fun b => b.cpu.flag) (fun _ _ => rfl) i b).trans
      (congrArg (fun b => b.cpu.flag) hperform)
  have hzero : cleared.cpu.flag = 0 := by
    simp only [cleared, mapCpu, Cpu.flag, Cpu.setFlag, Cpu.v_setV, if_true]
    rfl
  obtain ⟨hframe, hcollide⟩ := drawRows_eq (b.cpu.v (i.register 0)).toNat
    (b.cpu.v (i.register 1)).toNat b.cpu.index (i.operand 2).toNat cleared
  rw [hdevices, hflag]
  rw [hzero] at hcollide
  exact ⟨hframe, hcollide⟩

omit [Framed δ] in
/-- The instruction succeeds if it has no rows or all its rows lie in memory. -/
lemma draw_eq_ok (hi : i.mnemonic = .draw) (b : Board δ) : (execute i b).result = .ok () ↔
    (i.operand 2).toNat = 0 ∨ b.cpu.index.toNat + (i.operand 2).toNat ≤ Memory.size := by
  rw [result_execute_of_ne (by rw [hi]; decide) (by rw [hi]; decide), Memory.walk_eq_ok,
    Instruction.reach, hi]

/-- The rows that lie in memory are drawn. -/
lemma drawn_in_memory (hi : i.mnemonic = .draw) (b : Board δ) :
    (frame b.devices).Drawn
      (b.memory.spriteBits b.cpu.index.toNat
        (min (i.operand 2).toNat (Memory.size - b.cpu.index.toNat)))
      (b.cpu.v (i.register 0)).toNat (b.cpu.v (i.register 1)).toNat
      (frame (execute i b).state.devices) (execute i b).state.cpu.flag := by
  obtain ⟨hframe, hflag⟩ := execute_draw_eq hi b
  rw [hframe]
  exact Frame.drawn_toggleAll _ _ _ _ _ _ hflag

omit [Framed δ] in
/-- When the instruction succeeds, all its rows lie in memory. -/
lemma rows_of_draw_eq_ok (hi : i.mnemonic = .draw) {b : Board δ}
    (hok : (execute i b).result = .ok ()) :
    min (i.operand 2).toNat (Memory.size - b.cpu.index.toNat) = (i.operand 2).toNat := by
  rcases (draw_eq_ok hi b).mp hok with h | h <;> omega

/-- When the instruction succeeds, the whole sprite is drawn. -/
lemma drawn_of_ok (hi : i.mnemonic = .draw) {b : Board δ} (hok : (execute i b).result = .ok ()) :
    (frame b.devices).Drawn (b.memory.spriteBits b.cpu.index.toNat (i.operand 2).toNat)
      (b.cpu.v (i.register 0)).toNat (b.cpu.v (i.register 1)).toNat
      (frame (execute i b).state.devices) (execute i b).state.cpu.flag := by
  have hdrawn := drawn_in_memory hi b
  rwa [rows_of_draw_eq_ok hi hok] at hdrawn

/-- **What the drawing instruction draws.** The sprite lies in memory from the index on, and its
place is in two registers, read before the flag is cleared. The instruction succeeds if it has no
rows or all its rows lie in memory. Then every pixel of the picture has been inverted once for each
bit of the sprite that falls on it, where the picture goes round at both edges; and the flag is set
if a bit falls on a pixel that was lit, or two bits fall on the same pixel, and is clear otherwise.
If the instruction fails, this is so for the rows that lie in memory, of which there may be none.

**Proof sketch.** The rows are drawn one after the other, and the flag is never cleared in between.
A pixel that is inverted several times is lit at one of these turns if it was lit before, or else at
the second. -/
theorem execute_draw (hi : i.mnemonic = .draw) (b : Board δ) :
    let left := (b.cpu.v (i.register 0)).toNat
    let top := (b.cpu.v (i.register 1)).toNat
    let start := b.cpu.index.toNat
    let count := (i.operand 2).toNat
    let b' := (execute i b).state
    let drawn (rows : Nat) : Prop := (frame b.devices).Drawn (b.memory.spriteBits start rows)
      left top (frame b'.devices) b'.cpu.flag
    ((execute i b).result = .ok () ↔ count = 0 ∨ start + count ≤ Memory.size) ∧
      ((execute i b).result = .ok () → drawn count) ∧
      ((execute i b).result ≠ .ok () → drawn (Memory.size - start)) := by
  intro left top start count b' drawn
  have hresult : (execute i b).result = .ok () ↔ count = 0 ∨ start + count ≤ Memory.size :=
    draw_eq_ok hi b
  refine ⟨hresult, drawn_of_ok hi, fun hfail => ?_⟩
  rw [Ne, hresult] at hfail
  have hsome : min count (Memory.size - start) = Memory.size - start := by omega
  have hdrawn : drawn (min count (Memory.size - start)) := drawn_in_memory hi b
  rwa [hsome] at hdrawn

/-- The digit zero, which is four by five pixels, on a picture of four by three, from the third
column on: `VF` names the column. Its first row and its fourth fall on the same pixels. -/
theorem execute_draw_folded :
    let devices : Panel Frame Switches Silent Replay :=
      ⟨.blank 4 3 (by decide) (by decide), .none, ⟨⟩, .ofList []⟩
    let b : Board _ := ⟨Cpu.powerOn.setV Cpu.flagRegister 2, .powerOn, devices⟩
    let i : Instruction := ⟨.draw, 0xdf05, [0xf, 0, 5]⟩
    i.mnemonic = .draw ∧ (execute i b).result = .ok () ∧ (execute i b).state.cpu.flag = 1 ∧
      (frame (execute i b).state.devices).get 2 0 = Bool.not^[2] false := by
  intro devices b i
  obtain ⟨hok, hdrawn, -⟩ := execute_draw (i := i) rfl b
  have hresult := hok.mpr (by decide)
  have hdrawn := hdrawn hresult
  refine ⟨rfl, hresult, hdrawn.flag_one.mpr (.inr ⟨(0, 0), ?_, (3, 0), ?_, ?_⟩),
    (hdrawn.get_eq 2 0).trans ?_⟩
  · decide +kernel
  · decide +kernel
  · decide
  · decide +kernel

end Board

end Chip8
