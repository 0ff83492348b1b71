import Mathlib.Data.List.Forall2
import Chip8.Proofs.Instruction.Check

set_option autoImplicit false
set_option relaxedAutoImplicit false

/-!
# Encoding instructions

Decoding a word takes the operands out of their fields; putting them back beside the code of the
pattern is encoding. When the mask of the pattern and the fields of its operands share all bits of a
word out among them, nothing is lost on either way.

## Main definitions

* `Chip8.Field.Fits` — an operand has no bit outside its field.
* `Chip8.Pattern.encode` — the word of a pattern with given operands.
* `Chip8.Pattern.Tiled` — every bit of a word is fixed or belongs to one operand, and to one only.

## Main results

* `Chip8.Pattern.encode_extract` — a word is made of its operands.
* `Chip8.Pattern.accepts_encode`, `Chip8.Pattern.extract_encode` — the word that is made of operands
  belongs to the pattern, and has these operands.
* `Chip8.Table.round_trip` — decoding and encoding undo each other.
-/

namespace Chip8

/-! ## One field -/

namespace Field

variable {f : Field} {operand word word' : UInt16} {k : Nat}

/-- The operand has no bit outside the field. -/
def Fits (f : Field) (operand : UInt16) : Prop :=
  operand &&& (f.mask >>> f.shift.toUInt16) = operand

instance (f : Field) (operand : UInt16) : Decidable (f.Fits operand) :=
  inferInstanceAs (Decidable (_ = _))

/-- The field does not reach below its shift: as many zeros as the shift has, or more, are at the
lower end of the mask. -/
def Reachable (f : Field) : Prop := 2 ^ f.shift.toNat ∣ f.mask.toNat

instance (f : Field) : Decidable f.Reachable := inferInstanceAs (Decidable (_ ∣ _))

lemma testBit_of_le (word : UInt16) (h : 16 ≤ k) : word.toNat.testBit k = false := by
  apply Nat.testBit_lt_two_pow
  exact Nat.lt_of_lt_of_le word.toNat_lt (Nat.pow_le_pow_right (by decide) h)

/-- How far operands are shifted in fact. -/
def places (f : Field) : Nat := f.shift.toNat % 16

lemma toNat_shift_mod (f : Field) : f.shift.toUInt16.toNat % 16 = f.places := by
  rw [UInt8.toNat_toUInt16, places]

lemma testBit_extract (f : Field) (word : UInt16) (k : Nat) :
    (f.extract word).toNat.testBit k =
      (word.toNat.testBit (f.places + k) && f.mask.toNat.testBit (f.places + k)) := by
  rw [extract, UInt16.toNat_shiftRight, toNat_shift_mod, Nat.testBit_shiftRight, UInt16.toNat_and,
    Nat.testBit_and]

lemma testBit_insert (f : Field) (operand : UInt16) (k : Nat) :
    (f.insert operand).toNat.testBit k =
      (decide (k < 16) && (decide (f.places ≤ k) && operand.toNat.testBit (k - f.places))) := by
  rw [insert, UInt16.toNat_shiftLeft, toNat_shift_mod, Nat.testBit_mod_two_pow,
    Nat.testBit_shiftLeft]

lemma Reachable.testBit_mask (h : f.Reachable) (hk : k < f.places) :
    f.mask.toNat.testBit k = false := by
  have hlt : k < f.shift.toNat := Nat.lt_of_lt_of_le hk (Nat.mod_le _ _)
  obtain ⟨m, hm⟩ := h
  rw [hm, Nat.testBit_two_pow_mul, decide_eq_false (Nat.not_le.mpr hlt), Bool.false_and]

/-- A bit of an operand that fits is a bit of the mask, above the shift. -/
lemma Fits.testBit_mask (h : f.Fits operand) (hk : operand.toNat.testBit k) :
    f.mask.toNat.testBit (f.places + k) := by
  rw [Fits, Pattern.word_eq_iff_bits] at h
  have hbit := h k
  rw [UInt16.toNat_and, Nat.testBit_and, hk, Bool.true_and, UInt16.toNat_shiftRight,
    toNat_shift_mod, Nat.testBit_shiftRight] at hbit
  exact hbit

/-- What is taken out of a field depends on nothing outside the field. -/
lemma extract_congr (h : word &&& f.mask = word' &&& f.mask) :
    f.extract word = f.extract word' := by
  rw [extract, extract, h]

/-- What is taken out of a field fits it. -/
lemma fits_extract (f : Field) (word : UInt16) : f.Fits (f.extract word) := by
  rw [Fits, Pattern.word_eq_iff_bits]
  intro k
  rw [UInt16.toNat_and, Nat.testBit_and, testBit_extract, UInt16.toNat_shiftRight, toNat_shift_mod,
    Nat.testBit_shiftRight, Bool.and_assoc, Bool.and_self]

/-- Taking an operand out and putting it back leaves the field of the word. -/
lemma insert_extract (h : f.Reachable) (word : UInt16) :
    f.insert (f.extract word) = word &&& f.mask := by
  rw [Pattern.word_eq_iff_bits]
  intro k
  rw [testBit_insert, testBit_extract, UInt16.toNat_and, Nat.testBit_and]
  rcases Nat.lt_or_ge k f.places with hlow | hhigh
  · rw [decide_eq_false (Nat.not_le.mpr hlow), h.testBit_mask hlow]
    simp only [Bool.false_and, Bool.and_false]
  · rw [Nat.add_sub_cancel' hhigh, decide_eq_true hhigh, Bool.true_and]
    rcases Nat.lt_or_ge k 16 with hin | hout
    · rw [decide_eq_true hin, Bool.true_and]
    · rw [testBit_of_le word hout]
      simp only [Bool.false_and, Bool.and_false]

/-- An operand that fits is taken out as it was put in. -/
lemma extract_insert (h : f.Fits operand) : f.extract (f.insert operand) = operand := by
  rw [Pattern.word_eq_iff_bits]
  intro k
  rw [testBit_extract, testBit_insert, Nat.add_sub_cancel_left,
    decide_eq_true (Nat.le_add_right _ _), Bool.true_and]
  rcases hk : operand.toNat.testBit k with _ | _
  · rw [Bool.and_false, Bool.false_and]
  · have hmask := h.testBit_mask hk
    have hin : f.places + k < 16 := by
      by_contra hout
      rw [testBit_of_le f.mask (Nat.le_of_not_lt hout)] at hmask
      cases hmask
    rw [decide_eq_true hin, hmask]
    rfl

/-- An operand that fits is put into the field and nowhere else. -/
lemma insert_and_mask (h : f.Fits operand) : f.insert operand &&& f.mask = f.insert operand := by
  rw [Pattern.word_eq_iff_bits]
  intro k
  rw [UInt16.toNat_and, Nat.testBit_and]
  rcases hk : (f.insert operand).toNat.testBit k with _ | _
  · exact Bool.false_and _
  · rw [testBit_insert] at hk
    simp only [Bool.and_eq_true, decide_eq_true_eq] at hk
    have hmask := h.testBit_mask hk.2.2
    rw [Nat.add_sub_cancel' hk.2.1] at hmask
    rw [hmask, Bool.and_self]

end Field

/-! ## Words put together -/

namespace Pattern

variable {p : Pattern} {word mask : UInt16} {words operands : List UInt16} {fields : List Field}

/-- The word with the code of a pattern and operands put into their places. -/
def encode (p : Pattern) (operands : List UInt16) : UInt16 :=
  (List.zipWith Field.insert p.fields operands).foldl (· ||| ·) p.code

lemma and_or_distrib (a b c : UInt16) : a &&& (b ||| c) = a &&& b ||| a &&& c := by
  rw [word_eq_iff_bits]
  intro k
  simp only [UInt16.toNat_and, UInt16.toNat_or, Nat.testBit_and, Nat.testBit_or,
    Bool.and_or_distrib_left]

/-- What a word has in common with words that are put together, it has in common with each of
them. -/
lemma and_foldl_or (mask : UInt16) (words : List UInt16) (word : UInt16) :
    mask &&& words.foldl (· ||| ·) word =
      (words.map (mask &&& ·)).foldl (· ||| ·) (mask &&& word) := by
  induction words generalizing word with
  | nil => rfl
  | cons first rest ih => rw [List.foldl_cons, ih, List.map_cons, List.foldl_cons, and_or_distrib]

/-- Words outside a mask do not matter under it. -/
lemma foldl_or_and (h : ∀ w ∈ words, w &&& mask = 0) (word : UInt16) :
    words.foldl (· ||| ·) word &&& mask = word &&& mask := by
  induction words generalizing word with
  | nil => rfl
  | cons first rest ih =>
    rw [List.forall_mem_cons] at h
    rw [List.foldl_cons, ih h.2, UInt16.and_comm, and_or_distrib, UInt16.and_comm mask first, h.1,
      UInt16.or_zero, UInt16.and_comm]

/-- Operands that fit are outside a mask if their fields are. -/
lemma zipWith_insert_and (hfits : List.Forall₂ Field.Fits fields operands)
    (h : ∀ f ∈ fields, f.mask &&& mask = 0) :
    ∀ w ∈ List.zipWith Field.insert fields operands, w &&& mask = 0 := by
  induction hfits with
  | nil => simp
  | @cons f operand fields operands hfirst _ ih =>
    rw [List.forall_mem_cons] at h
    rw [List.zipWith_cons_cons, List.forall_mem_cons]
    refine ⟨?_, ih h.2⟩
    rw [← Field.insert_and_mask hfirst, UInt16.and_assoc, h.1, UInt16.and_zero]

/-- Operands that have been put into fields without a common bit are taken out again, whatever there
is outside the fields.

**Proof sketch.** Induction on the fields. The first field is not touched by the operands behind it,
and the others find the first operand outside their fields. -/
lemma map_extract_foldl_or (hfits : List.Forall₂ Field.Fits fields operands)
    (hdisjoint : fields.Pairwise fun f g => f.mask &&& g.mask = 0)
    (hword : ∀ f ∈ fields, word &&& f.mask = 0) :
    fields.map (·.extract
      ((List.zipWith Field.insert fields operands).foldl (· ||| ·) word)) = operands := by
  induction hfits generalizing word with
  | nil => rfl
  | @cons f operand fields operands hfirst hrest ih =>
    rw [List.pairwise_cons] at hdisjoint
    rw [List.forall_mem_cons] at hword
    obtain ⟨hahead, hdisjoint⟩ := hdisjoint
    obtain ⟨hwordf, hword⟩ := hword
    have hunder (m : UInt16) (hm : word &&& m = 0) :
        (word ||| f.insert operand) &&& m = f.insert operand &&& m := by
      rw [UInt16.and_comm, and_or_distrib, UInt16.and_comm m word, hm, UInt16.zero_or,
        UInt16.and_comm]
    have hbehind : ∀ w ∈ List.zipWith Field.insert fields operands, w &&& f.mask = 0 := by
      apply zipWith_insert_and hrest
      intro g hg
      rw [UInt16.and_comm]
      exact hahead g hg
    rw [List.zipWith_cons_cons, List.foldl_cons, List.map_cons, List.cons.injEq]
    constructor
    · rw [Field.extract_congr ((foldl_or_and hbehind _).trans (hunder f.mask hwordf)),
        Field.extract_insert hfirst]
    · apply ih hdisjoint
      intro g hg
      rw [hunder g.mask (hword g hg), ← Field.insert_and_mask hfirst, UInt16.and_assoc,
        hahead g hg, UInt16.and_zero]

/-! ## Whole patterns -/

/-- Every bit of a word is fixed by the pattern or belongs to one of its operands, and to one of
these only. -/
structure Tiled (p : Pattern) : Prop where
  /-- There are no more operands than an instruction can hold. -/
  length_le : p.fields.length ≤ maxOperands
  /-- The code asks for no bit that is not fixed. -/
  wellFormed : p.WellFormed
  /-- No bit of an operand is fixed. -/
  unfixed : ∀ f ∈ p.fields, f.mask &&& p.mask = 0
  /-- No two operands have a bit in common. -/
  disjoint : p.fields.Pairwise fun f g => f.mask &&& g.mask = 0
  /-- No bit is left over. -/
  covers : (p.fields.map Field.mask).foldl (· ||| ·) p.mask = 0xffff
  /-- No bit of an operand is shifted out. -/
  reachable : ∀ f ∈ p.fields, f.Reachable

instance (p : Pattern) : Decidable p.Tiled :=
  decidable_of_iff
    (p.fields.length ≤ maxOperands ∧ p.WellFormed ∧ (∀ f ∈ p.fields, f.mask &&& p.mask = 0) ∧
      (p.fields.Pairwise fun f g => f.mask &&& g.mask = 0) ∧
      (p.fields.map Field.mask).foldl (· ||| ·) p.mask = 0xffff ∧ ∀ f ∈ p.fields, f.Reachable)
    ⟨fun ⟨h₁, h₂, h₃, h₄, h₅, h₆⟩ => ⟨h₁, h₂, h₃, h₄, h₅, h₆⟩,
      fun ⟨h₁, h₂, h₃, h₄, h₅, h₆⟩ => ⟨h₁, h₂, h₃, h₄, h₅, h₆⟩⟩

/-- **A word is made of its operands**: put back beside the code they give the word again. -/
lemma encode_extract (hp : p.Tiled) (h : p.accepts word) :
    p.encode (p.fields.map (·.extract word)) = word := by
  have hinsert : List.zipWith Field.insert p.fields (p.fields.map (·.extract word)) =
      (p.fields.map Field.mask).map (word &&& ·) := by
    rw [List.zipWith_map_right, List.zipWith_self, List.map_map]
    apply List.map_congr_left
    intro f hf
    exact Field.insert_extract (hp.reachable f hf) word
  have hcode : word &&& p.mask = p.code := beq_iff_eq.mp h
  rw [encode, hinsert, ← hcode, ← and_foldl_or, hp.covers]
  exact UInt16.and_neg_one

/-- **The word that is made of operands belongs to the pattern.** -/
lemma accepts_encode (hp : p.Tiled) (h : List.Forall₂ Field.Fits p.fields operands) :
    p.accepts (p.encode operands) := by
  rw [accepts, beq_iff_eq, encode, foldl_or_and (zipWith_insert_and h hp.unfixed)]
  exact hp.wellFormed

/-- **The word that is made of operands has these operands.** -/
lemma extract_encode (hp : p.Tiled) (h : List.Forall₂ Field.Fits p.fields operands) :
    p.fields.map (·.extract (p.encode operands)) = operands := by
  apply map_extract_foldl_or h hp.disjoint
  intro f hf
  rw [← hp.wellFormed, UInt16.and_assoc, UInt16.and_comm p.mask, hp.unfixed f hf, UInt16.and_zero]

lemma read_of_tiled (hp : p.Tiled) (word : UInt16) :
    p.read word = ⟨p.mnemonic, word, p.fields.map (·.extract word)⟩ := by
  rw [read, List.take_of_length_le hp.length_le]

end Pattern

/-! ## Tables -/

namespace Table

variable {t : Table} {i : Nat} {p : Pattern} {word : UInt16}

/-- A word is read by the pattern at a place if that accepts it and no earlier one does. -/
lemma decode_of_getElem? (hp : t[i]? = some p) (h : p.accepts word)
    (hearlier : ∀ q ∈ t.take i, ¬ q.accepts word) : t.decode word = p.read word := by
  obtain ⟨hi, rfl⟩ := List.getElem?_eq_some_iff.mp hp
  have hsplit : t = t.take i ++ t[i] :: t.drop (i + 1) := by
    rw [← List.drop_eq_getElem_cons hi, List.take_append_drop]
  have hfind : t.find? (·.accepts word) = some t[i] := by
    rw [List.find?_eq_some_iff_append]
    exact ⟨h, _, _, hsplit, fun q hq => by simpa using hearlier q hq⟩
  rw [decode, hfind]

/-- All patterns of the standard table share the bits of a word out. -/
lemma tiled_standard : ∀ p ∈ standard, p.Tiled := by decide +kernel

/-- **Decoding and encoding undo each other.** Of a pattern whose mask and fields share all bits of
a word out, in whatever table it is listed: a word that this pattern reads, as no earlier one
accepts it, is made of the code of the pattern and the operands that have been read; and whatever
operands fit their fields, the word that is made of them is read by this pattern, with exactly these
operands, unless an earlier one accepts it. A word that no pattern accepts is unknown, and has no
operands. The thirty-five patterns of the standard table are all of this kind.

**Proof sketch.** An operand that is put back into its field gives the bits that the word has there,
and there are no other bits besides those that are fixed. In the other direction an operand does not
reach into the fields of the others, nor to the fixed bits. -/
theorem round_trip (hp : t[i]? = some p) (htiled : p.Tiled) :
    (∀ word, p.accepts word → (∀ q ∈ t.take i, ¬ q.accepts word) →
      ∃ operands, t.decode word = ⟨p.mnemonic, word, operands⟩ ∧ p.encode operands = word ∧
        List.Forall₂ Field.Fits p.fields operands) ∧
    (∀ operands, List.Forall₂ Field.Fits p.fields operands →
      (∀ q ∈ t.take i, ¬ q.accepts (p.encode operands)) →
        t.decode (p.encode operands) = ⟨p.mnemonic, p.encode operands, operands⟩) ∧
    (∀ word, (∀ q ∈ t, ¬ q.accepts word) → t.decode word = ⟨.unknown, word, []⟩) ∧
    standard.length = 35 ∧ ∀ q ∈ standard, q.Tiled := by
  refine ⟨fun word haccepts hearlier => ?_, fun operands hfits hearlier => ?_,
    fun word => decode_of_not_accepts, rfl, tiled_standard⟩
  · refine ⟨p.fields.map (·.extract word), ?_, Pattern.encode_extract htiled haccepts, ?_⟩
    · rw [decode_of_getElem? hp haccepts hearlier, Pattern.read_of_tiled htiled]
    · rw [List.forall₂_map_right_iff, List.forall₂_same]
      exact fun f _ => f.fits_extract word
  · have haccepts := Pattern.accepts_encode htiled hfits
    rw [decode_of_getElem? hp haccepts hearlier, Pattern.read_of_tiled htiled,
      Pattern.extract_encode htiled hfits]

/-- The drawing instruction has three operands, and its words belong to no pattern before it. -/
theorem round_trip_draw :
    let p : Pattern := ⟨.draw, 0xf000, 0xd000, [.x, .y, .nibble]⟩
    standard[23]? = some p ∧ p.Tiled ∧ List.Forall₂ Field.Fits p.fields [1, 2, 5] ∧
      p.encode [1, 2, 5] = 0xd125 ∧ standard.decode 0xd125 = ⟨.draw, 0xd125, [1, 2, 5]⟩ := by
  intro p
  have hp : standard[23]? = some p := rfl
  have htiled : p.Tiled := by decide
  have hfits : List.Forall₂ Field.Fits p.fields [1, 2, 5] := by
    simp only [p, List.forall₂_cons, List.Forall₂.nil, and_true]
    decide
  have hword : p.encode [1, 2, 5] = 0xd125 := by decide
  have hdecode := (round_trip hp htiled).2.1 [1, 2, 5] hfits (by rw [hword]; decide +kernel)
  rw [hword] at hdecode
  exact ⟨hp, htiled, hfits, hword, hdecode⟩

/-- A word that is made for one pattern is read by another if that comes first and accepts it. -/
example : standard.decode (Pattern.encode ⟨.sys, 0xf000, 0x0000, [.address]⟩ [0x0ee]) =
    ⟨.ret, 0x00ee, []⟩ := by decide

end Table

end Chip8
