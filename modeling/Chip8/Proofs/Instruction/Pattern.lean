import Mathlib.Data.Nat.Bitwise
import Mathlib.Data.Set.BooleanAlgebra
import Mathlib.Order.CompletePartialOrder
import Mathlib.Tactic.Lemma
import Chip8.Instruction.Pattern

set_option autoImplicit false
set_option relaxedAutoImplicit false

/-!
# The words of a pattern

A pattern stands for the set of words that it accepts. How the sets of two patterns lie to each
other is told from their fixed bits.

## Main definitions

* `Chip8.Pattern.words` — the words that belong to a pattern.

## Main results

* `Chip8.Pattern.accepts_iff_bits`, `Chip8.Pattern.overlaps_iff_bits`,
  `Chip8.Pattern.narrowerThan_iff_bits` — the tests on patterns, bit by bit.
* `Chip8.Pattern.overlaps_of_accepts` — two patterns that share a word overlap.
* `Chip8.Pattern.words_ssubset` — the words of a narrower pattern are some of the words of the
  broader one, and not all of them.
-/

namespace Chip8

namespace Pattern

variable {p q : Pattern} {word : UInt16}

/-- The words that belong to the pattern. -/
def words (p : Pattern) : Set UInt16 := { word | p.accepts word }

lemma mem_words : word ∈ p.words ↔ p.accepts word := Iff.rfl

/-! ## Bit by bit -/

/-- Two words are the same if all their bits are. -/
lemma word_eq_iff_bits {v w : UInt16} : v = w ↔ ∀ k, v.toNat.testBit k = w.toNat.testBit k := by
  constructor
  · rintro rfl k
    rfl
  · intro h
    apply UInt16.toNat_inj.mp
    exact Nat.eq_of_testBit_eq h

/-- A word belongs to a pattern if it has the code of the pattern at the bits that are fixed. -/
lemma accepts_iff_bits : p.accepts word ↔
    ∀ k, (word.toNat.testBit k && p.mask.toNat.testBit k) = p.code.toNat.testBit k := by
  simp only [accepts, beq_iff_eq, word_eq_iff_bits, UInt16.toNat_and, Nat.testBit_and]

/-- Two patterns overlap if their codes agree at the bits that both fix. -/
lemma overlaps_iff_bits : p.overlaps q ↔
    ∀ k, p.mask.toNat.testBit k → q.mask.toNat.testBit k →
      p.code.toNat.testBit k = q.code.toNat.testBit k := by
  simp only [overlaps, beq_iff_eq, word_eq_iff_bits, UInt16.toNat_and, UInt16.toNat_xor,
    Nat.testBit_and, Nat.testBit_xor, UInt16.toNat_zero, Nat.zero_testBit]
  apply forall_congr'
  intro k
  cases p.mask.toNat.testBit k <;> cases q.mask.toNat.testBit k <;> simp

/-- A pattern is narrower than another if they overlap, it fixes every bit that the other fixes,
and it fixes one that the other does not. -/
lemma narrowerThan_iff_bits : p.narrowerThan q ↔
    p.overlaps q ∧ (∀ k, q.mask.toNat.testBit k → p.mask.toNat.testBit k) ∧
      ∃ k, p.mask.toNat.testBit k ∧ ¬ q.mask.toNat.testBit k := by
  have hsub : p.mask &&& q.mask = q.mask ↔
      ∀ k, q.mask.toNat.testBit k → p.mask.toNat.testBit k := by
    simp only [word_eq_iff_bits, UInt16.toNat_and, Nat.testBit_and]
    apply forall_congr'
    intro k
    cases p.mask.toNat.testBit k <;> cases q.mask.toNat.testBit k <;> simp
  simp only [narrowerThan, Bool.and_eq_true, beq_iff_eq, bne_iff_ne, and_assoc, hsub]
  refine and_congr_right fun _ => and_congr_right fun hfixed => ?_
  constructor
  · intro hne
    by_contra hall
    push Not at hall
    apply hne
    rw [word_eq_iff_bits]
    intro k
    exact Bool.eq_iff_iff.mpr ⟨hall k, hfixed k⟩
  · rintro ⟨k, hp, hq⟩ heq
    exact hq (heq ▸ hp)

/-! ## Words in common -/

/-- **Two patterns that share a word overlap**, as both have the bits of the word. -/
lemma overlaps_of_accepts (hp : p.accepts word) (hq : q.accepts word) : p.overlaps q := by
  rw [accepts_iff_bits] at hp hq
  rw [overlaps_iff_bits]
  intro k hpk hqk
  rw [← hp k, ← hq k, hpk, hqk]

/-- The words of a narrower pattern are words of the broader one. The broader one has to accept some
word; it might else ask for bits that it does not fix. -/
lemma words_subset (h : p.narrowerThan q) (hq : q.accepts word) : p.words ⊆ q.words := by
  obtain ⟨hoverlap, hfixed, -⟩ := narrowerThan_iff_bits.mp h
  rw [overlaps_iff_bits] at hoverlap
  rw [accepts_iff_bits] at hq
  intro other hother
  rw [mem_words, accepts_iff_bits] at hother ⊢
  intro k
  rcases hqk : q.mask.toNat.testBit k with _ | _
  · rw [Bool.and_false, ← hq k, hqk, Bool.and_false]
  · have hpk := hfixed k hqk
    rw [Bool.and_true, ← hoverlap k hpk hqk, ← hother k, hpk, Bool.and_true]

/-- **The words of a narrower pattern are not all the words of the broader one.** A word of both
stays one of the broader pattern when all those of its bits are inverted that only the narrower one
fixes. -/
lemma words_ssubset (h : p.narrowerThan q) (hp : p.accepts word) (hq : q.accepts word) :
    p.words ⊂ q.words := by
  refine ⟨words_subset h hq, fun hsub => ?_⟩
  obtain ⟨-, hfixed, k, hpk, hqk⟩ := narrowerThan_iff_bits.mp h
  have hother : q.accepts (word ^^^ (p.mask ^^^ q.mask)) := by
    rw [accepts_iff_bits] at hq ⊢
    intro j
    rw [← hq j, UInt16.toNat_xor, UInt16.toNat_xor, Nat.testBit_xor, Nat.testBit_xor]
    rcases hqj : q.mask.toNat.testBit j with _ | _
    · rw [Bool.and_false, Bool.and_false]
    · rw [hfixed j hqj, Bool.xor_self, Bool.xor_false]
  have hback := hsub (mem_words.mpr hother)
  rw [mem_words, accepts_iff_bits] at hback
  rw [accepts_iff_bits] at hp
  have hbit := (hback k).trans (hp k).symm
  rw [UInt16.toNat_xor, UInt16.toNat_xor, Nat.testBit_xor, Nat.testBit_xor, hpk,
    Bool.eq_false_iff.mpr hqk, Bool.and_true, Bool.and_true] at hbit
  revert hbit
  cases word.toNat.testBit k <;> decide

end Pattern

end Chip8
