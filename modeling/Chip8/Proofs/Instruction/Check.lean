import Mathlib.Data.Set.Lattice
import Chip8.Proofs.Instruction.Table

set_option autoImplicit false
set_option relaxedAutoImplicit false

/-!
# What the check of a decode table finds

The check of a decode table looks at masks and codes. For patterns that ask for no bit outside
their mask this is as good as looking at all the words that they accept, and the fault that is
reported is the first one there is.

## Main definitions

* `Chip8.Pattern.WellFormed` — a pattern asks for no bit that it does not fix.
* `Chip8.Pattern.Rivals` — two patterns share a word, and the first is not the narrower.
* `Chip8.Table.FineAt`, `Chip8.Table.FaultAt` — nothing is wrong at a place of a table, or what
  is.
* `Chip8.Table.FirstFault` — what is wrong at the first place at which something is.
* `Chip8.Table.Ordered` — patterns that share a word have the narrower one first.

## Main results

* `Chip8.Pattern.overlaps_iff_nonempty`, `Chip8.Pattern.narrowerThan_iff_ssubset` — the tests on
  masks and codes are statements about words.
* `Chip8.Table.check_eq_error_iff` — the check reports the first fault.
* `Chip8.Table.check_by_words` — what the check finds, told by words alone.
-/

namespace Chip8

namespace Pattern

variable {p q : Pattern} {word : UInt16}

/-! ## Patterns that ask for fixed bits only -/

/-- The pattern asks for no bit that it does not fix. -/
def WellFormed (p : Pattern) : Prop := p.code &&& p.mask = p.code

instance (p : Pattern) : Decidable p.WellFormed := inferInstanceAs (Decidable (_ = _))

/-- A well-formed pattern accepts its own code. -/
lemma WellFormed.accepts_code (hp : p.WellFormed) : p.accepts p.code := beq_iff_eq.mpr hp

lemma WellFormed.testBit_code (hp : p.WellFormed) {k : Nat}
    (hk : p.mask.toNat.testBit k = false) : p.code.toNat.testBit k = false := by
  rw [← accepts_iff_bits.mp hp.accepts_code k, hk, Bool.and_false]

/-- Of two patterns that overlap, the first accepts the word with the bits of both codes. A bit of
the second code is a bit of the first, or the first pattern does not fix it. -/
lemma accepts_codes (hp : p.WellFormed) (hq : q.WellFormed) (h : p.overlaps q) :
    p.accepts (p.code ||| q.code) := by
  rw [overlaps_iff_bits] at h
  rw [accepts_iff_bits]
  intro k
  rw [UInt16.toNat_or, Nat.testBit_or]
  rcases hpk : p.mask.toNat.testBit k with _ | _
  · rw [Bool.and_false, hp.testBit_code hpk]
  · rw [Bool.and_true]
    rcases hqk : q.mask.toNat.testBit k with _ | _
    · rw [hq.testBit_code hqk, Bool.or_false]
    · rw [h k hpk hqk, Bool.or_self]

lemma overlaps_comm : p.overlaps q ↔ q.overlaps p := by
  simp only [overlaps_iff_bits]
  constructor
  · exact fun h k hq hp => (h k hp hq).symm
  · exact fun h k hp hq => (h k hq hp).symm

/-- **Two well-formed patterns overlap if they share a word.** -/
theorem overlaps_iff_nonempty (hp : p.WellFormed) (hq : q.WellFormed) :
    p.overlaps q ↔ (p.words ∩ q.words).Nonempty := by
  constructor
  · intro h
    refine ⟨p.code ||| q.code, accepts_codes hp hq h, ?_⟩
    rw [UInt16.or_comm]
    exact accepts_codes hq hp (overlaps_comm.mp h)
  · rintro ⟨word, hpw, hqw⟩
    exact overlaps_of_accepts hpw hqw

/-- A pattern with all the words of another fixes no bit that the other leaves open: the code of the
other with the bits inverted that only the first fixes would else be a word of the other alone. -/
lemma fixed_of_subset (hp : p.WellFormed) (h : p.words ⊆ q.words) {k : Nat}
    (hk : q.mask.toNat.testBit k) : p.mask.toNat.testBit k := by
  by_contra hopen
  have hother : p.accepts (p.code ^^^ (q.mask ^^^ p.mask &&& q.mask)) := by
    rw [accepts_iff_bits]
    intro j
    simp only [UInt16.toNat_xor, UInt16.toNat_and, Nat.testBit_xor, Nat.testBit_and]
    rcases hpj : p.mask.toNat.testBit j with _ | _
    · rw [Bool.and_false, hp.testBit_code hpj]
    · rw [Bool.true_and, Bool.xor_self, Bool.xor_false, Bool.and_true]
  have hcode := accepts_iff_bits.mp (h hp.accepts_code) k
  have hflip := accepts_iff_bits.mp (h hother) k
  simp only [UInt16.toNat_xor, UInt16.toNat_and, Nat.testBit_xor, Nat.testBit_and, hk,
    Bool.eq_false_iff.mpr hopen, Bool.xor_false, Bool.xor_true, Bool.and_true] at hcode hflip
  rw [← hcode] at hflip
  exact Bool.not_ne_self _ hflip

/-- A pattern that fixes no more bits than a well-formed one with its words has the same words. -/
lemma subset_of_fixed (hp : p.WellFormed) (h : p.words ⊆ q.words)
    (hfixed : ∀ k, p.mask.toNat.testBit k → q.mask.toNat.testBit k) : q.words ⊆ p.words := by
  have hcode := accepts_iff_bits.mp (h hp.accepts_code)
  intro word hword
  rw [mem_words, accepts_iff_bits] at hword ⊢
  intro k
  rcases hpk : p.mask.toNat.testBit k with _ | _
  · rw [Bool.and_false, hp.testBit_code hpk]
  · have hword' := hword k
    have hcode' := hcode k
    rw [hfixed k hpk, Bool.and_true] at hword' hcode'
    rw [Bool.and_true, hword', hcode']

/-- **A well-formed pattern is narrower than another if its words are some of the words of the
other, and not all of them.** -/
theorem narrowerThan_iff_ssubset (hp : p.WellFormed) (hq : q.WellFormed) :
    p.narrowerThan q ↔ p.words ⊂ q.words := by
  constructor
  · intro h
    obtain ⟨hoverlap, -, -⟩ := narrowerThan_iff_bits.mp h
    obtain ⟨word, hpw, hqw⟩ := (overlaps_iff_nonempty hp hq).mp hoverlap
    exact words_ssubset h hpw hqw
  · intro h
    have hcode : q.accepts p.code := h.1 hp.accepts_code
    rw [narrowerThan_iff_bits]
    refine ⟨overlaps_of_accepts hp.accepts_code hcode, fun k => fixed_of_subset hp h.1, ?_⟩
    by_contra hall
    push Not at hall
    exact h.2 (subset_of_fixed hp h.1 hall)

/-! ## Rivals -/

/-- The two patterns share a word, and the words of the first are not some, without being all, of
the words of the second. -/
def Rivals (p q : Pattern) : Prop := (p.words ∩ q.words).Nonempty ∧ ¬ p.words ⊂ q.words

/-- Well-formed patterns clash if they are rivals. -/
lemma clashes_iff_rivals (hp : p.WellFormed) (hq : q.WellFormed) : p.clashes q ↔ p.Rivals q := by
  rw [Rivals, ← overlaps_iff_nonempty hp hq, ← narrowerThan_iff_ssubset hp hq]
  simp [clashes]

end Pattern

namespace Table

variable {t later : Table} {p q : Pattern} {fault : Fault} {i : Nat}
variable {r s : Pattern → Pattern → Prop}

/-! ## What is wrong at a place -/

/-- Nothing is wrong at place `i` of a table: the pattern there has no more operands than an
instruction can hold, and it does not stand in the relation `r` to a later pattern. -/
def FineAt (r : Pattern → Pattern → Prop) (t : Table) (i : Nat) : Prop :=
  ∀ p, t[i]? = some p →
    p.fields.length ≤ maxOperands ∧ ∀ j q, i < j → t[j]? = some q → ¬ r p q

/-- The fault that tells what is wrong at place `i` of a table. -/
inductive FaultAt (r : Pattern → Pattern → Prop) (t : Table) (i : Nat) : Fault → Prop where
  /-- The pattern there has too many operands. -/
  | operands {p : Pattern} : t[i]? = some p → maxOperands < p.fields.length →
      FaultAt r t i (.invalid (.tooManyOperands p.mnemonic p.fields.length))
  /-- It has not, but it stands in the relation `r` to a later pattern, and the fault names the
  first of these. -/
  | rival {p q : Pattern} {j : Nat} : t[i]? = some p → p.fields.length ≤ maxOperands →
      i < j → t[j]? = some q → r p q →
      (∀ j' q', i < j' → j' < j → t[j']? = some q' → ¬ r p q') →
      FaultAt r t i (.ambiguous p.mnemonic q.mnemonic)

/-- The fault tells what is wrong at the first place at which something is. -/
def FirstFault (r : Pattern → Pattern → Prop) (t : Table) (fault : Fault) : Prop :=
  ∃ i, (∀ j < i, t.FineAt r j) ∧ t.FaultAt r i fault

/-! ## One pattern more in front -/

lemma fineAt_cons_zero : FineAt r (p :: later) 0 ↔
    p.fields.length ≤ maxOperands ∧ ∀ q ∈ later, ¬ r p q := by
  constructor
  · intro h
    obtain ⟨hfew, hlater⟩ := h p rfl
    refine ⟨hfew, fun q hq => ?_⟩
    obtain ⟨j, hj⟩ := List.mem_iff_getElem?.mp hq
    exact hlater (j + 1) q (Nat.succ_pos j) hj
  · rintro ⟨hfew, hlater⟩ _ ⟨⟩
    refine ⟨hfew, fun j q hj hq => ?_⟩
    obtain ⟨k, rfl⟩ := Nat.exists_eq_succ_of_ne_zero (Nat.ne_of_gt hj)
    exact hlater q (List.mem_of_getElem? hq)

lemma fineAt_cons_succ : FineAt r (p :: later) (i + 1) ↔ FineAt r later i := by
  refine forall_congr' fun p' => imp_congr Iff.rfl (and_congr Iff.rfl ?_)
  constructor
  · exact fun h j q hj hq => h (j + 1) q (Nat.succ_lt_succ hj) hq
  · intro h j q hj hq
    obtain ⟨k, rfl⟩ := Nat.exists_eq_succ_of_ne_zero (Nat.ne_of_gt (Nat.zero_lt_of_lt hj))
    exact h k q (Nat.lt_of_succ_lt_succ hj) hq

lemma faultAt_cons_succ : FaultAt r (p :: later) (i + 1) fault ↔ FaultAt r later i fault := by
  constructor
  · intro h
    cases h with
    | operands hp hmany => exact .operands hp hmany
    | @rival p' q j hp hfew hj hq hr hfirst =>
      obtain ⟨k, rfl⟩ := Nat.exists_eq_succ_of_ne_zero (Nat.ne_of_gt (Nat.zero_lt_of_lt hj))
      exact .rival hp hfew (Nat.lt_of_succ_lt_succ hj) hq hr fun j' q' hj' hlt hq' =>
        hfirst (j' + 1) q' (Nat.succ_lt_succ hj') (Nat.succ_lt_succ hlt) hq'
  · intro h
    cases h with
    | operands hp hmany => exact .operands hp hmany
    | @rival p' q j hp hfew hj hq hr hfirst =>
      refine .rival hp hfew (Nat.succ_lt_succ hj) hq hr fun j' q' hj' hlt hq' => ?_
      obtain ⟨k, rfl⟩ := Nat.exists_eq_succ_of_ne_zero (Nat.ne_of_gt (Nat.zero_lt_of_lt hj'))
      exact hfirst k q' (Nat.lt_of_succ_lt_succ hj') (Nat.lt_of_succ_lt_succ hlt) hq'

/-- The first fault of a table is that at its first place, or else the first fault of the rest. -/
lemma firstFault_cons : FirstFault r (p :: later) fault ↔
    FaultAt r (p :: later) 0 fault ∨ FineAt r (p :: later) 0 ∧ FirstFault r later fault := by
  constructor
  · rintro ⟨i, hfine, hfault⟩
    cases i with
    | zero => exact .inl hfault
    | succ i =>
      refine .inr ⟨hfine 0 (Nat.succ_pos i), i, fun j hj => ?_, faultAt_cons_succ.mp hfault⟩
      exact fineAt_cons_succ.mp (hfine (j + 1) (Nat.succ_lt_succ hj))
  · rintro (hfault | ⟨hzero, i, hfine, hfault⟩)
    · exact ⟨0, fun j hj => absurd hj (Nat.not_lt_zero j), hfault⟩
    · refine ⟨i + 1, fun j hj => ?_, faultAt_cons_succ.mpr hfault⟩
      cases j with
      | zero => exact hzero
      | succ j => exact fineAt_cons_succ.mpr (hfine j (Nat.lt_of_succ_lt_succ hj))

lemma faultAt_zero_of_many (hmany : maxOperands < p.fields.length) :
    FaultAt r (p :: later) 0 fault ↔
      fault = .invalid (.tooManyOperands p.mnemonic p.fields.length) := by
  constructor
  · intro h
    cases h with
    | operands hp _ =>
      cases hp
      rfl
    | rival hp hfew =>
      cases hp
      omega
  · rintro rfl
    exact .operands rfl hmany

/-- At the first place, the first pattern behind it that it clashes with is at fault. -/
lemma faultAt_zero_of_few (hfew : p.fields.length ≤ maxOperands) :
    FaultAt (·.clashes ·) (p :: later) 0 fault ↔
      ∃ q, later.find? (p.clashes ·) = some q ∧ fault = .ambiguous p.mnemonic q.mnemonic := by
  simp only [List.find?_eq_some_iff_getElem]
  constructor
  · intro h
    cases h with
    | operands hp hmany =>
      cases hp
      omega
    | @rival _ q j hp _ hj hq hr hfirst =>
      cases hp
      obtain ⟨k, rfl⟩ := Nat.exists_eq_succ_of_ne_zero (Nat.ne_of_gt hj)
      obtain ⟨hk, hq⟩ := List.getElem?_eq_some_iff.mp hq
      refine ⟨q, ⟨hr, k, Nat.lt_of_succ_lt_succ hk, hq, fun l hl => ?_⟩, rfl⟩
      simpa using hfirst (l + 1) _ (Nat.succ_pos l) (Nat.succ_lt_succ hl)
        (List.getElem?_eq_getElem (Nat.lt_trans (Nat.succ_lt_succ hl) hk))
  · rintro ⟨q, ⟨hr, k, hk, rfl, hfirst⟩, rfl⟩
    refine .rival rfl hfew (Nat.succ_pos k) (List.getElem?_eq_getElem hk) hr ?_
    intro j' q' hj' hlt hq'
    obtain ⟨l, rfl⟩ := Nat.exists_eq_succ_of_ne_zero (Nat.ne_of_gt hj')
    obtain ⟨hl, rfl⟩ := List.getElem?_eq_some_iff.mp hq'
    simpa using hfirst l (Nat.lt_of_succ_lt_succ hlt)

/-! ## The check -/

/-- **The check reports the first fault.** -/
theorem check_eq_error_iff : t.check = .error fault ↔ t.FirstFault (·.clashes ·) fault := by
  induction t with
  | nil =>
    simp only [check, reduceCtorEq, false_iff]
    rintro ⟨i, -, hfault⟩
    cases hfault with
    | operands hp => cases hp
    | rival hp => cases hp
  | cons p later ih =>
    rw [firstFault_cons, fineAt_cons_zero, check]
    split
    · rename_i hmany
      have hnot : ¬ p.fields.length ≤ maxOperands := by omega
      simp only [faultAt_zero_of_many hmany, hnot, false_and, or_false, Except.error.injEq]
      exact eq_comm
    · rename_i hfew
      rw [faultAt_zero_of_few (Nat.le_of_not_lt hfew)]
      cases hfind : later.find? (p.clashes ·) with
      | some q =>
        have hclash : ¬ ∀ q ∈ later, ¬ p.clashes q := fun h =>
          h q (List.mem_of_find?_eq_some hfind) (List.find?_some hfind)
        simp only [hclash, and_false, false_and, or_false, Except.error.injEq, Option.some.injEq,
          exists_eq_left']
        exact eq_comm
      | none =>
        have hclear : ∀ q ∈ later, ¬ p.clashes q := List.find?_eq_none.mp hfind
        simp only [ih, Nat.le_of_not_lt hfew, true_and, reduceCtorEq, false_and, exists_false,
          false_or]
        exact (and_iff_right hclear).symm

/-! ## Told by words -/

lemma FineAt.congr (h : ∀ p ∈ t, ∀ q ∈ t, r p q ↔ s p q) (hfine : FineAt r t i) :
    FineAt s t i := by
  intro p hp
  obtain ⟨hfew, hlater⟩ := hfine p hp
  refine ⟨hfew, fun j q hj hq => ?_⟩
  rw [← h p (List.mem_of_getElem? hp) q (List.mem_of_getElem? hq)]
  exact hlater j q hj hq

lemma FaultAt.congr (h : ∀ p ∈ t, ∀ q ∈ t, r p q ↔ s p q) (hfault : FaultAt r t i fault) :
    FaultAt s t i fault := by
  cases hfault with
  | operands hp hmany => exact .operands hp hmany
  | @rival p q j hp hfew hj hq hr hfirst =>
    have hmem := h p (List.mem_of_getElem? hp)
    have hs : s p q := (hmem q (List.mem_of_getElem? hq)).mp hr
    refine .rival hp hfew hj hq hs fun j' q' hj' hlt hq' => ?_
    rw [← hmem q' (List.mem_of_getElem? hq')]
    exact hfirst j' q' hj' hlt hq'

/-- Relations that are the same for the patterns of a table find the same first fault. -/
lemma firstFault_congr (h : ∀ p ∈ t, ∀ q ∈ t, r p q ↔ s p q) :
    FirstFault r t fault ↔ FirstFault s t fault := by
  have h' : ∀ p ∈ t, ∀ q ∈ t, s p q ↔ r p q := fun p hp q hq => (h p hp q hq).symm
  constructor
  · rintro ⟨i, hfine, hfault⟩
    exact ⟨i, fun j hj => (hfine j hj).congr h, hfault.congr h⟩
  · rintro ⟨i, hfine, hfault⟩
    exact ⟨i, fun j hj => (hfine j hj).congr h', hfault.congr h'⟩

/-- Whenever two patterns share a word, the words of the earlier are some, and not all, of the words
of the later. -/
def Ordered (t : Table) : Prop :=
  t.Pairwise fun p q => (p.words ∩ q.words).Nonempty → p.words ⊂ q.words

/-- A table that passes the check is ordered, even if its patterns ask for bits that they do not
fix. -/
lemma ordered_of_check (h : t.check = .ok ()) : t.Ordered := by
  obtain ⟨-, hpairs⟩ := check_eq_ok.mp h
  refine hpairs.imp fun {p q} hpq => ?_
  rintro ⟨word, hp, hq⟩
  exact Pattern.words_ssubset (hpq (Pattern.overlaps_of_accepts hp hq)) hp hq

/-- What the check of a table finds, and what it goes by. -/
structure CheckedByWords (t : Table) : Prop where
  /-- Two patterns overlap if they share a word. -/
  overlaps : ∀ p ∈ t, ∀ q ∈ t, p.overlaps q ↔ ∃ word, p.accepts word ∧ q.accepts word
  /-- The first is narrower if its words are some, and not all, of the words of the second. -/
  narrowerThan : ∀ p ∈ t, ∀ q ∈ t, p.narrowerThan q ↔ p.words ⊂ q.words
  /-- A table passes if no pattern has too many operands and the patterns are ordered. -/
  ok : t.check = .ok () ↔ (∀ p ∈ t, p.fields.length ≤ maxOperands) ∧ t.Ordered
  /-- It fails with the fault of the first place with too many operands or a later rival. -/
  error : ∀ fault, t.check = .error fault ↔ t.FirstFault Pattern.Rivals fault

/-- **What the check of a decode table finds can be told by words alone**, if no pattern asks for a
bit that it does not fix: its tests on masks and codes are statements about the words that are
accepted, and it reports the first fault there is. Other patterns may overlap without sharing a
word; but a table that passes is ordered in any case.

**Proof sketch.** Two codes that agree on all bits that both patterns fix make a word of both
patterns when they are put together. A pattern whose words are some of the words of another fixes
all bits that the other fixes: a bit that it leaves open could be inverted in its code. -/
theorem check_by_words (t : Table) :
    ((∀ p ∈ t, p.WellFormed) → t.CheckedByWords) ∧ (t.check = .ok () → t.Ordered) := by
  refine ⟨fun hwell => ?_, ordered_of_check⟩
  have hoverlaps : ∀ p ∈ t, ∀ q ∈ t, p.overlaps q ↔ (p.words ∩ q.words).Nonempty :=
    fun p hp q hq => Pattern.overlaps_iff_nonempty (hwell p hp) (hwell q hq)
  have hnarrower : ∀ p ∈ t, ∀ q ∈ t, p.narrowerThan q ↔ p.words ⊂ q.words :=
    fun p hp q hq => Pattern.narrowerThan_iff_ssubset (hwell p hp) (hwell q hq)
  refine ⟨hoverlaps, hnarrower, ?_, fun fault => ?_⟩
  · rw [check_eq_ok]
    refine and_congr_right fun _ => List.Pairwise.iff_of_mem fun {p q} hp hq => ?_
    rw [hoverlaps p hp q hq, hnarrower p hp q hq]
  · rw [check_eq_error_iff]
    exact firstFault_congr fun p hp q hq =>
      Pattern.clashes_iff_rivals (hwell p hp) (hwell q hq)

/-- A table in which the pattern of all words that begin with a zero comes before two single words
of that kind, and in which another pattern has too many operands. -/
def misplaced : Table :=
  [⟨.jump, 0xf000, 0x1000, [.address]⟩, ⟨.sys, 0xf000, 0x0000, [.address]⟩,
    ⟨.call, 0xf000, 0x2000, [.x, .y, .nibble, .byte]⟩, ⟨.cls, 0xffff, 0x00e0, []⟩,
    ⟨.ret, 0xffff, 0x00ee, []⟩]

/-- The misplaced pattern comes before the one with too many operands, and the first of the two
single words comes before the second. -/
theorem check_by_words_misplaced :
    (∀ p ∈ misplaced, p.WellFormed) ∧ misplaced.check = .error (.ambiguous .sys .cls) ∧
      misplaced.FirstFault Pattern.Rivals (.ambiguous .sys .cls) := by
  have hwell : ∀ p ∈ misplaced, p.WellFormed := by decide
  have hcheck : misplaced.check = .error (.ambiguous .sys .cls) := by rfl
  exact ⟨hwell, hcheck, (((check_by_words misplaced).1 hwell).error _).mp hcheck⟩

end Table

end Chip8
