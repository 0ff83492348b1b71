import Mathlib.Data.Nat.Bitwise
import Chip8.Display.Frame
import Chip8.Keypad.Switches
import Chip8.Proofs.Instruction.Failure

set_option autoImplicit false
set_option relaxedAutoImplicit false

/-!
# Arithmetic with a flag

Five kinds of instructions compute a byte and a flag. The flag register is a register like any
other: it may be an operand, and it may be the one that the result goes to. The operands are read
first, then the flag is written, and last the result.

## Main definitions

* `Chip8.Mnemonic.Computes` — how the result and the flag follow from the operands, as numbers.
* `Chip8.Cpu.Receives` — the registers when a result and a flag have been written.

## Main results

* `Chip8.Mnemonic.Computes.unique` — the operands determine the result and the flag.
* `Chip8.Board.perform_eq_updateFlagged` — what the five kinds have in common.
* `Chip8.Board.execute_arithmetic` — the whole instruction.
-/

namespace Chip8

/-! ## Numbers -/

namespace Mnemonic

/-- The kinds of instructions that compute a byte and a flag. -/
def arithmetic : List Mnemonic := [.add, .sub, .subFrom, .shiftRight, .shiftLeft]

/-- How the result `r` and the flag `f` follow from the values `a` and `b` of the two operands. -/
def Computes (m : Mnemonic) (a b r f : Nat) : Prop :=
  match m with
  | .add => r + 256 * f = a + b
  | .sub => (r : Int) = ((a : Int) - b) % 256 ∧ (f = 1 ↔ b < a)
  | .subFrom => (r : Int) = ((b : Int) - a) % 256 ∧ (f = 1 ↔ a < b)
  | .shiftRight => 2 * r + f = a
  | .shiftLeft => 256 * f + r = 2 * a
  | _ => False

/-- **The operands determine the result and the flag**, as one is a byte and the other a bit. -/
lemma Computes.unique {m : Mnemonic} {a b r f r' f' : Nat} (h : m.Computes a b r f)
    (h' : m.Computes a b r' f') (hr : r < 256) (hf : f ≤ 1) (hr' : r' < 256) (hf' : f' ≤ 1) :
    r' = r ∧ f' = f := by
  cases m with
  | add | sub | subFrom | shiftRight | shiftLeft =>
    simp only [Computes] at h h'
    omega
  | _ => exact h.elim

end Mnemonic

section Bytes

variable (a b : UInt8)

lemma toNat_decide (p : Prop) [Decidable p] : (decide p).toNat = if p then 1 else 0 :=
  apply_ite Bool.toNat p true false

lemma computes_add : Mnemonic.add.Computes a.toNat b.toNat (a + b).toNat
    (decide (255 < a.toNat + b.toNat)).toNat := by
  have ha := a.toNat_lt
  have hb := b.toNat_lt
  rw [Mnemonic.Computes, UInt8.toNat_add, toNat_decide]
  split <;> omega

/-- A difference goes round at 256, and the flag tells whether it is positive. -/
lemma difference_eq : ((a - b).toNat : Int) = ((a.toNat : Int) - b.toNat) % 256 ∧
    ((decide (b < a)).toNat = 1 ↔ b.toNat < a.toNat) := by
  have ha := a.toNat_lt
  have hb := b.toNat_lt
  constructor
  · rw [UInt8.toNat_sub]
    omega
  · rw [Bool.toNat_eq_one, decide_eq_true_eq, UInt8.lt_iff_toNat_lt]

lemma computes_sub : Mnemonic.sub.Computes a.toNat b.toNat (a - b).toNat (decide (b < a)).toNat :=
  difference_eq a b

lemma computes_subFrom :
    Mnemonic.subFrom.Computes a.toNat b.toNat (b - a).toNat (decide (a < b)).toNat :=
  difference_eq b a

/-- The bit that drops out at the lower end is the remainder. -/
lemma computes_shiftRight :
    Mnemonic.shiftRight.Computes a.toNat b.toNat (a >>> 1).toNat (a &&& 1 != 0).toNat := by
  have hlast : (a &&& 1 != 0) = decide (a.toNat % 2 = 1) := by
    have hzero : a &&& 1 = 0 ↔ a.toNat % 2 = 0 := by
      rw [← UInt8.toNat_inj, UInt8.toNat_and, UInt8.toNat_one, Nat.and_one_is_mod,
        UInt8.toNat_zero]
    rw [Bool.eq_iff_iff, bne_iff_ne, Ne, hzero, decide_eq_true_eq]
    omega
  have hhalf : (a >>> 1).toNat = a.toNat / 2 := by
    rw [UInt8.toNat_shiftRight]
    exact Nat.shiftRight_eq_div_pow a.toNat 1
  rw [Mnemonic.Computes, hhalf, hlast, toNat_decide]
  split <;> omega

/-- The bit that drops out at the upper end counts 256. -/
lemma computes_shiftLeft :
    Mnemonic.shiftLeft.Computes a.toNat b.toNat (a <<< 1).toNat (a &&& 0x80 != 0).toNat := by
  have ha := a.toNat_lt
  have hfirst : (a &&& 0x80 != 0) = decide (128 ≤ a.toNat) := by
    have hzero : a &&& 0x80 = 0 ↔ a.toNat.testBit 7 = false := by
      have hand : a.toNat &&& 128 = (a.toNat.testBit 7).toNat * 128 := Nat.and_two_pow a.toNat 7
      have hmask : (0x80 : UInt8).toNat = 128 := rfl
      rw [← UInt8.toNat_inj, UInt8.toNat_and, hmask, hand, UInt8.toNat_zero]
      cases a.toNat.testBit 7 <;> simp
    rw [Bool.eq_iff_iff, bne_iff_ne, Ne, hzero, decide_eq_true_eq, Nat.testBit_eq_decide_div_mod_eq,
      decide_eq_false_iff_not]
    omega
  have hdouble : (a <<< 1).toNat = 2 * a.toNat % 256 := by
    rw [UInt8.toNat_shiftLeft, Nat.mul_comm]
    exact congrArg (· % 256) (Nat.shiftLeft_eq a.toNat 1)
  rw [Mnemonic.Computes, hdouble, hfirst, toNat_decide]
  split <;> omega

end Bytes

/-! ## Registers -/

namespace Cpu

/-- The registers when the result `r` has been written to a register and the flag `f` to the flag
register. If that is the same register, the result has been written later. -/
structure Receives (c : Cpu) (x : Register) (r f : Nat) (c' : Cpu) : Prop where
  /-- The result is in the register, whichever it is. -/
  result : (c'.v x).toNat = r
  /-- The flag is in the flag register, unless the result is there. -/
  flag : x ≠ flagRegister → c'.flag.toNat = f
  /-- The other registers keep their values. -/
  others : ∀ q, q ≠ x → q ≠ flagRegister → c'.v q = c.v q

lemma receives_setV (c : Cpu) (x : Register) (flag : Bool) (result : UInt8) :
    c.Receives x result.toNat flag.toNat ((c.setFlag flag).setV x result) where
  result := by rw [v_setV, if_pos rfl]
  flag hx := by
    rw [Cpu.flag, v_setV, if_neg hx, setFlag, v_setV, if_pos rfl]
    cases flag <;> rfl
  others q hq hflag := by
    rw [v_setV, if_neg hq.symm, setFlag, v_setV, if_neg hflag.symm]

end Cpu

/-! ## Instructions -/

namespace Board

variable {δ : Type} [Devices δ] {i : Instruction}

/-- **What the five kinds have in common.** They compute a flag and a byte from the registers as
they are before, and write both. -/
lemma perform_eq_updateFlagged (hi : i.mnemonic ∈ Mnemonic.arithmetic) :
    ∃ compute : Cpu → Bool × UInt8,
      perform (δ := δ) i = updateFlagged (i.register 0) compute ∧
        ∀ c : Cpu, i.mnemonic.Computes (c.v (i.register 0)).toNat (c.v (i.register 1)).toNat
          (compute c).2.toNat (compute c).1.toNat := by
  simp only [Mnemonic.arithmetic, List.mem_cons, List.not_mem_nil, or_false] at hi
  rcases hi with hi | hi | hi | hi | hi <;> rw [hi]
  · exact ⟨_, by rw [perform, hi], fun c => computes_add (c.v _) (c.v _)⟩
  · exact ⟨_, by rw [perform, hi], fun c => computes_sub (c.v _) (c.v _)⟩
  · exact ⟨_, by rw [perform, hi], fun c => computes_subFrom (c.v _) (c.v _)⟩
  · exact ⟨_, by rw [perform, hi], fun c => computes_shiftRight (c.v _) (c.v _)⟩
  · exact ⟨_, by rw [perform, hi], fun c => computes_shiftLeft (c.v _) (c.v _)⟩

/-- **Arithmetic with a flag.** An instruction of the five kinds succeeds. The values of its two
operands before it, one or both of which may be in the flag register, determine a byte and a bit.
The byte goes to the first operand and the bit to the flag register; if they are the same, the byte
stays and the bit is lost. No other register changes, and nothing else but the program counter,
which moves on by one instruction.

**Proof sketch.** All five kinds read first and write the flag before the result. That the numbers
fit is a matter of the arithmetic of bytes. -/
theorem execute_arithmetic (hi : i.mnemonic ∈ Mnemonic.arithmetic) (b : Board δ) :
    let x := i.register 0
    let y := i.register 1
    let b' := (execute i b).state
    (∃ r f : Nat, r < 256 ∧ f ≤ 1 ∧
      i.mnemonic.Computes (b.cpu.v x).toNat (b.cpu.v y).toNat r f ∧
      (∀ r' f' : Nat, r' < 256 → f' ≤ 1 →
        i.mnemonic.Computes (b.cpu.v x).toNat (b.cpu.v y).toNat r' f' → r' = r ∧ f' = f) ∧
      b.cpu.Receives x r f b'.cpu) ∧
    (execute i b).result = .ok () ∧ b'.cpu.pc = b.cpu.pc + instructionSize ∧
      ∀ p ∉ [Place.registers, Place.pc], p.Same b b' := by
  intro x y b'
  obtain ⟨compute, hperform, hcomputes⟩ := perform_eq_updateFlagged (δ := δ) hi
  have hr := (compute b.cpu).2.toNat_lt
  have hf := (compute b.cpu).1.toNat_le
  have hreceives := b.cpu.receives_setV x (compute b.cpu).1 (compute b.cpu).2
  have hexecute : execute i b =
      ⟨b.mapCpu fun c => { (c.setFlag (compute c).1).setV x (compute c).2 with
        pc := c.pc + instructionSize }, .ok (), [.executing b.cpu.pc i]⟩ := by
    rw [execute_eq, hperform]
    rfl
  have hstate : b' = _ := congrArg Outcome.state hexecute
  refine ⟨⟨_, _, hr, hf, hcomputes b.cpu, fun r' f' hr' hf' h' => ?_, ?_⟩, ?_, ?_, ?_⟩
  · exact (hcomputes b.cpu).unique h' hr hf hr' hf'
  · rw [hstate]
    exact ⟨hreceives.result, hreceives.flag, hreceives.others⟩
  · rw [hexecute]
  · rw [hstate]
    rfl
  · intro p hp
    rw [hstate]
    cases p with
    | registers | pc => simp at hp
    | _ => rfl

/-- The flag register is the second operand of an addition, so the carry takes the place of one of
the two numbers that have been added. -/
theorem execute_arithmetic_carry :
    let cpu := (Cpu.powerOn.setV 1 200).setV Cpu.flagRegister 100
    let devices : Panel Frame Switches Silent Replay := ⟨.standard, .none, ⟨⟩, .ofList []⟩
    let b : Board _ := ⟨cpu, .powerOn, devices⟩
    let i : Instruction := ⟨.add, 0x81f4, [1, 0xf]⟩
    i.mnemonic ∈ Mnemonic.arithmetic ∧ ((execute i b).state.cpu.v 1).toNat = 44 ∧
      (execute i b).state.cpu.flag.toNat = 1 := by
  intro cpu devices b i
  have hi : i.mnemonic ∈ Mnemonic.arithmetic := by decide
  obtain ⟨⟨r, f, hr, hf, hcomputes, hunique, hreceives⟩, -⟩ := execute_arithmetic hi b
  have hsum : i.mnemonic.Computes (b.cpu.v (i.register 0)).toNat (b.cpu.v (i.register 1)).toNat
      44 1 := by
    change 44 + 256 * 1 = _ + _
    decide
  obtain ⟨rfl, rfl⟩ := hunique 44 1 (by decide) (by decide) hsum
  exact ⟨hi, hreceives.result, hreceives.flag (by decide)⟩

end Board

end Chip8
