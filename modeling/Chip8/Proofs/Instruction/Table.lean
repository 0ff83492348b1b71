import Chip8.Instruction.Table
import Chip8.Proofs.Instruction.Pattern

set_option autoImplicit false
set_option relaxedAutoImplicit false

/-!
# The order of a decode table

A table that passes the check lists the more special of two patterns first whenever they share a
word. The first pattern that accepts a word is then the most special one, and this does not depend
on the order of the table any more.

## Main definitions

* `Chip8.Table.IsNarrowest` — a pattern has fewer words than all others that accept a word.

## Main results

* `Chip8.Table.check_eq_ok` — what the check makes sure of.
* `Chip8.Table.find?_eq_some_iff` — the first pattern that accepts a word is the narrowest.
* `Chip8.Table.decode_in_any_order` — the narrowest pattern reads the word, in whatever order the
  patterns are listed.
-/

namespace Chip8

namespace Table

variable {t t' : Table} {p q : Pattern} {word : UInt16}

/-! ## What the check makes sure of -/

/-- A pattern clashes with a later one unless it is narrower than that or does not overlap it. -/
lemma clashes_eq_false : p.clashes q = false ↔ (p.overlaps q → p.narrowerThan q) := by
  unfold Pattern.clashes
  cases p.overlaps q <;> simp

/-- **A table passes the check** if no pattern has too many operands and each is narrower than all
later ones that it overlaps. -/
theorem check_eq_ok : t.check = .ok () ↔
    (∀ p ∈ t, p.fields.length ≤ maxOperands) ∧
      t.Pairwise fun p q => p.overlaps q → p.narrowerThan q := by
  induction t with
  | nil => simp [check]
  | cons p later ih =>
    have hlater : (∀ q ∈ later, p.overlaps q → p.narrowerThan q) ↔
        later.find? (p.clashes ·) = none := by
      simp only [List.find?_eq_none, Bool.not_eq_true, clashes_eq_false]
    rw [List.forall_mem_cons, List.pairwise_cons, hlater, check]
    split
    · rename_i hmany
      simp only [reduceCtorEq, false_iff]
      omega
    · rename_i hfew
      cases hfind : later.find? (p.clashes ·) with
      | some q => simp
      | none =>
        simp only [ih, true_and, Nat.le_of_not_lt hfew]

lemma fields_length_le (ht : t.check = .ok ()) (hp : p ∈ t) : p.fields.length ≤ maxOperands :=
  (check_eq_ok.mp ht).1 p hp

/-- No pattern is narrower than itself, so none is listed twice. -/
lemma nodup_of_check (ht : t.check = .ok ()) : t.Nodup := by
  refine (check_eq_ok.mp ht).2.imp fun {p q} hpq => ?_
  rintro rfl
  have hself : p.overlaps p := by
    rw [Pattern.overlaps_iff_bits]
    exact fun _ _ _ => rfl
  obtain ⟨-, -, k, hk, hk'⟩ := Pattern.narrowerThan_iff_bits.mp (hpq hself)
  exact hk' hk

/-! ## The narrowest pattern -/

/-- Among the patterns that accept the word, `p` is the one whose words are some, and not all, of
those of every other. -/
structure IsNarrowest (t : Table) (word : UInt16) (p : Pattern) : Prop where
  /-- The pattern is in the table. -/
  mem : p ∈ t
  /-- It accepts the word. -/
  accepts : p.accepts word
  /-- Every other that does has all its words and more. -/
  ssubset : ∀ q ∈ t, q ≠ p → q.accepts word → p.words ⊂ q.words

namespace IsNarrowest

/-- There is only one narrowest pattern. -/
lemma unique (hp : t.IsNarrowest word p) (hq : t.IsNarrowest word q) : p = q := by
  by_contra hne
  have hpq := hp.ssubset q hq.mem (Ne.symm hne) hq.accepts
  have hqp := hq.ssubset p hp.mem hne hp.accepts
  exact hpq.2 hqp.1

/-- It does not matter in which order the patterns are listed. -/
lemma perm (h : t'.Perm t) (hp : t.IsNarrowest word p) : t'.IsNarrowest word p where
  mem := h.mem_iff.mpr hp.mem
  accepts := hp.accepts
  ssubset q hq := hp.ssubset q (h.mem_iff.mp hq)

end IsNarrowest

/-- The first pattern that accepts a word is the narrowest. The patterns before it do not accept the
word, and it is narrower than those behind it that do. -/
lemma isNarrowest_of_find? (ht : t.check = .ok ())
    (h : t.find? (·.accepts word) = some p) : t.IsNarrowest word p := by
  obtain ⟨hp, before, later, rfl, hbefore⟩ := List.find?_eq_some_iff_append.mp h
  obtain ⟨-, hordered⟩ := check_eq_ok.mp ht
  obtain ⟨-, hordered, -⟩ := List.pairwise_append.mp hordered
  obtain ⟨hfirst, -⟩ := List.pairwise_cons.mp hordered
  refine ⟨by simp, hp, fun q hq hne haccepts => ?_⟩
  have hlater : q ∈ later := by
    simp only [List.mem_append, List.mem_cons] at hq
    rcases hq with hq | rfl | hq
    · have hreject := hbefore q hq
      rw [haccepts] at hreject
      cases hreject
    · exact absurd rfl hne
    · exact hq
  have hnarrower := hfirst q hlater (Pattern.overlaps_of_accepts hp haccepts)
  exact Pattern.words_ssubset hnarrower hp haccepts

/-- **The first pattern that accepts a word is the narrowest**, and there is no other narrowest
pattern. -/
theorem find?_eq_some_iff (ht : t.check = .ok ()) :
    t.find? (·.accepts word) = some p ↔ t.IsNarrowest word p := by
  refine ⟨isNarrowest_of_find? ht, fun hp => ?_⟩
  have hsome : (t.find? (·.accepts word)).isSome :=
    List.find?_isSome.mpr ⟨p, hp.mem, hp.accepts⟩
  obtain ⟨q, hq⟩ := Option.isSome_iff_exists.mp hsome
  rw [hq, (isNarrowest_of_find? ht hq).unique hp]

/-! ## Decoding -/

/-- The narrowest pattern reads the word, with all its operands. -/
lemma decode_of_isNarrowest (ht : t.check = .ok ()) (hp : t.IsNarrowest word p) :
    t.decode word = ⟨p.mnemonic, word, p.fields.map (·.extract word)⟩ := by
  have hall : p.fields.take maxOperands = p.fields :=
    List.take_of_length_le (fields_length_le ht hp.mem)
  rw [decode, (find?_eq_some_iff ht).mpr hp]
  simp only [Pattern.read, hall]

lemma decode_of_not_accepts (h : ∀ p ∈ t, ¬ p.accepts word) : t.decode word = .unknown word := by
  have hnone : t.find? (·.accepts word) = none := List.find?_eq_none.mpr h
  rw [decode, hnone]

/-- Two tables of the same patterns, both of which pass the check, decode alike. -/
lemma decode_eq_of_perm (ht : t.check = .ok ()) (ht' : t'.check = .ok ()) (h : t'.Perm t)
    (word : UInt16) : t'.decode word = t.decode word := by
  by_cases haccepts : ∃ p ∈ t, p.accepts word
  · have hsome : (t.find? (·.accepts word)).isSome := List.find?_isSome.mpr haccepts
    obtain ⟨p, hfind⟩ := Option.isSome_iff_exists.mp hsome
    have hp := isNarrowest_of_find? ht hfind
    rw [decode_of_isNarrowest ht hp, decode_of_isNarrowest ht' (hp.perm h)]
  · push Not at haccepts
    have hnone : ∀ p ∈ t', ¬ p.accepts word := fun p hp => by
      simpa using haccepts p (h.mem_iff.mp hp)
    rw [decode_of_not_accepts hnone, decode_of_not_accepts fun p hp => by simpa using haccepts p hp]

/-- **The narrowest pattern reads the word, in whatever order the patterns are listed.** A table
that passes the check lists no pattern twice. The pattern by which it reads a word is the narrowest
of those that accept the word: its words are some, and not all, of those of each of the others. No
operand of the pattern is left out. So any other order of the same patterns that passes the check
makes the same instruction of every word; where no pattern accepts the word, it is the unknown one.

**Proof sketch.** Two patterns that share a word agree on all bits that both fix, so they overlap,
and the check makes sure that the earlier is narrower. Narrowness in both directions is impossible,
so the narrowest pattern does not depend on the order. -/
theorem decode_in_any_order (ht : t.check = .ok ()) :
    t.Nodup ∧
      (∀ word p, t.find? (·.accepts word) = some p ↔ t.IsNarrowest word p) ∧
      (∀ word p, t.IsNarrowest word p →
        t.decode word = ⟨p.mnemonic, word, p.fields.map (·.extract word)⟩) ∧
      (∀ word, (∀ p ∈ t, ¬ p.accepts word) → t.decode word = .unknown word) ∧
      ∀ t' : Table, t'.Perm t → t'.check = .ok () → ∀ word, t'.decode word = t.decode word :=
  ⟨nodup_of_check ht, fun _ _ => find?_eq_some_iff ht, fun _ _ => decode_of_isNarrowest ht,
    fun _ => decode_of_not_accepts, fun _ hperm ht' => decode_eq_of_perm ht ht' hperm⟩

/-- The standard table with its first three patterns behind all others makes the same of a word that
two of the three accept. -/
theorem decode_in_any_order_standard :
    let t : Table := standard.drop 3 ++ standard.take 3
    t ≠ standard ∧ t.decode 0x00e0 = standard.decode 0x00e0 ∧
      standard.decode 0x00e0 = ⟨.cls, 0x00e0, []⟩ := by
  intro t
  obtain ⟨-, hfind, hread, -, horder⟩ := decode_in_any_order check_standard
  have hperm : t.Perm standard := by
    have hswap : t.Perm (standard.take 3 ++ standard.drop 3) := List.perm_append_comm
    rwa [List.take_append_drop] at hswap
  refine ⟨by decide, horder t hperm (by rfl) 0x00e0, ?_⟩
  exact hread 0x00e0 ⟨.cls, 0xffff, 0x00e0, []⟩ ((hfind _ _).mp (by rfl))

end Table

end Chip8
