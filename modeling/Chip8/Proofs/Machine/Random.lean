import Mathlib.Data.List.Basic
import Mathlib.Logic.Function.Iterate
import Chip8.Proofs.Instruction.Effect
import Chip8.Proofs.Machine.Built
import Chip8.Proofs.Machine.Turns

set_option autoImplicit false
set_option relaxedAutoImplicit false

/-!
# Which random byte an instruction gets

The source of random bytes has a first byte, a second one and so on. Only the instruction that asks
for a random byte draws one, and it draws no more than one, so that its place among those of its
kind is the place of its byte among the bytes of the source, whatever happens in between.

## Main definitions

* `Chip8.RandomSource.after`, `Chip8.RandomSource.byte` — the bytes of a source by their places.
* `Chip8.Board.Sampled` — what can befall a board, and what its random instructions have got.
* `Chip8.Machine.samples` — what the random instructions that ticks carry out have got.

## Main results

* `Chip8.Board.Sampled.random_eq`, `Chip8.Board.Sampled.value_eq` — the bytes are got in order.
* `Chip8.Machine.sampled_turns` — a machine may go on for any number of ticks.
* `Chip8.Machine.effect_and_samples` — what instructions can change, and which bytes they get.
-/

namespace Chip8

/-! ## The bytes of a source -/

namespace RandomSource

variable {R : Type} [RandomSource R]

/-- The source when `n` bytes have been drawn. -/
def after (n : Nat) (r : R) : R := (fun r => (nextByte r).2)^[n] r

/-- Byte number `n` of the source; the first has number zero. -/
def byte (n : Nat) (r : R) : UInt8 := (nextByte (after n r)).1

lemma after_succ (n : Nat) (r : R) : after (n + 1) r = (nextByte (after n r)).2 :=
  Function.iterate_succ_apply' _ n r

end RandomSource

open RandomSource (after byte)

variable {D K S R : Type} [Display D] [Keypad K] [Speaker S] [RandomSource R]

/-! ## What can befall a board -/

namespace Board

/-- What can befall a board: instructions, from any table, that succeed or fail, and between them
anything at all that leaves the source of random bytes alone. The random instructions are kept, in
their order, each with the value that its register had afterwards. -/
inductive Sampled (b : Board (Panel D K S R)) :
    List (Instruction × UInt8) → Board (Panel D K S R) → Prop where
  /-- Nothing has happened yet. -/
  | start : Sampled b [] b
  /-- A random instruction is kept with the value in its register. -/
  | random {samples : List (Instruction × UInt8)} {b' : Board (Panel D K S R)} {i : Instruction} :
      Sampled b samples b' → i.mnemonic = .random →
        Sampled b (samples ++ [(i, (execute i b').state.cpu.v (i.register 0))])
          (execute i b').state
  /-- Any other instruction, with any outcome. -/
  | other {samples : List (Instruction × UInt8)} {b' : Board (Panel D K S R)} {i : Instruction} :
      Sampled b samples b' → i.mnemonic ≠ .random → Sampled b samples (execute i b').state
  /-- Something that is no instruction, such as a tick of a timer or a new program in memory. -/
  | aside {samples : List (Instruction × UInt8)} {b' b'' : Board (Panel D K S R)} :
      Sampled b samples b' → b''.devices.random = b'.devices.random → Sampled b samples b''

namespace Sampled

variable {b b' : Board (Panel D K S R)} {samples : List (Instruction × UInt8)}

/-- As many bytes have been drawn as there have been random instructions. -/
theorem random_eq (h : b.Sampled samples b') :
    b'.devices.random = after samples.length b.devices.random := by
  induction h with
  | start => rfl
  | @random samples b' i _ hi ih =>
    have hdrawn := (effect_execute i b').random
    rw [if_pos hi, ih] at hdrawn
    rw [hdrawn, List.length_append, List.length_singleton, RandomSource.after_succ]
  | @other samples b' i _ hi ih =>
    have hkept := (effect_execute i b').random
    rw [if_neg hi] at hkept
    exact hkept.trans ih
  | aside _ hsame ih => exact hsame.trans ih

/-- **The bytes are got in order.** The random instruction at a place has got the byte at that
place, masked. -/
theorem value_eq (h : b.Sampled samples b') {n : Nat} {i : Instruction} {value : UInt8}
    (hn : samples[n]? = some (i, value)) :
    value = byte n b.devices.random &&& (i.operand 1).toUInt8 := by
  induction h with
  | start => cases hn
  | @random samples b' j hb hj ih =>
    rcases Nat.lt_trichotomy n samples.length with hlt | heq | hgt
    · rw [List.getElem?_append_left hlt] at hn
      exact ih hn
    · -- the newest instruction, at the place behind all others
      subst heq
      rw [List.getElem?_concat_length] at hn
      cases hn
      rw [(effect_execute i b').sample hj, hb.random_eq]
      rfl
    · rw [List.getElem?_eq_none] at hn
      · cases hn
      · rw [List.length_append, List.length_singleton]
        omega
  | other _ _ ih => exact ih hn
  | aside _ _ ih => exact ih hn

end Sampled

end Board

/-! ## Machines -/

namespace Machine

section Samples

variable {δ : Type} [Devices δ]

/-- The random instruction that a tick carries out, with the value that its register has afterwards;
none if it carries out another or none. -/
def sample (m : Machine δ) (t : Tick) : Option (Instruction × UInt8) :=
  ((m.carriedOut t).filter (·.mnemonic = .random)).map fun i =>
    (i, (m.turn t).cpu.v (i.register 0))

/-- The random instructions that ticks carry out, with the values that their registers have
afterwards. -/
def samples : Machine δ → List Tick → List (Instruction × UInt8)
  | _, [] => []
  | m, t :: ts => (m.sample t).toList ++ samples (m.turn t) ts

/-- None of the random instructions is left out. -/
lemma map_fst_samples (m : Machine δ) (ts : List Tick) :
    (m.samples ts).map Prod.fst = (m.executed ts).filter (·.mnemonic = .random) := by
  induction ts generalizing m with
  | nil => rfl
  | cons t ts ih =>
    rw [samples, executed, List.map_append, List.filter_append, ih, sample]
    congr 1
    rcases m.carriedOut t with _ | i
    · rfl
    · by_cases hi : i.mnemonic = .random <;> simp [hi]

end Samples

variable {b : Board (Panel D K S R)} {done : List (Instruction × UInt8)}
  {m : Machine (Panel D K S R)}

/-- The ticks of the timers do not turn to the source of random bytes. -/
lemma timeless_random : Timeless fun m : Machine (Panel D K S R) => m.devices.random where
  cpu _ _ := rfl
  soundOn _ _ := rfl
  present _ := rfl
  poll _ := rfl
  beep _ := rfl
  silence _ := rfl

/-- A machine may go on for a tick. -/
lemma sampled_turn (h : b.Sampled done m.toBoard) (t : Tick) :
    b.Sampled (done ++ (m.sample t).toList) (m.turn t).toBoard := by
  by_cases ht : t = .cycle
  · subst ht
    rcases m.turn_cycle with ⟨fault, ns, hc, hnone⟩ | ⟨i, ns, hc, hsome⟩
    · have hsample : m.sample .cycle = none := by
        rw [sample, hnone]
        rfl
      rw [hsample, Option.toList_none, List.append_nil]
      rcases cycle_eq_error hc with ⟨-, hturn⟩ | ⟨word, b', -, hrun, hturn⟩
      · rw [hturn]
        exact h
      · -- a random instruction does not fail
        have hmem := (Board.result_execute_iff.mp (congrArg Outcome.result hrun)).mnemonic
        have hne : (Table.standard.decode word).mnemonic ≠ .random := by
          intro hi
          rw [hi] at hmem
          revert hmem
          decide
        have hother := h.other hne
        rw [hrun] at hother
        rw [hturn]
        exact hother
    · obtain ⟨word, b', -, -, hrun, hturn⟩ := cycle_eq_ok hc
      by_cases hi : i.mnemonic = .random
      · have hsample : m.sample .cycle = some (i, (m.turn .cycle).cpu.v (i.register 0)) := by
          rw [sample, hsome, Option.filter_some, if_pos (by simpa using hi)]
          rfl
        have hrandom := h.random hi
        rw [hrun] at hrandom
        rw [hsample, hturn]
        exact hrandom
      · have hsample : m.sample .cycle = none := by
          rw [sample, hsome, Option.filter_some, if_neg (by simpa using hi)]
          rfl
        have hother := h.other hi
        rw [hrun] at hother
        rw [hsample, hturn, Option.toList_none, List.append_nil]
        exact hother
  · have hsample : m.sample t = none := by
      cases t with
      | cycle => exact absurd rfl ht
      | delay | sound => rfl
    rw [hsample, Option.toList_none, List.append_nil]
    exact h.aside (timeless_random.turn ht m)

/-- **A machine may go on** for any number of ticks, whatever comes of them. -/
theorem sampled_turns (h : b.Sampled done m.toBoard) (ts : List Tick) :
    b.Sampled (done ++ m.samples ts) (m.turns ts).toBoard := by
  induction ts generalizing done m with
  | nil =>
    rw [samples, List.append_nil]
    exact h
  | cons t ts ih =>
    rw [samples, turns_cons, ← List.append_assoc]
    exact ih (sampled_turn h t)

/-- **What instructions can change, and which random bytes they get.** Whatever table an instruction
comes from, whatever its operands are and whether it succeeds or fails, each part of the board is
changed by few kinds of instructions only, and a random byte is drawn by one kind only, one byte at
a time. So, whatever befalls a board, the random instructions get the bytes of its source in order,
masked, and no byte is lost between them. A machine may go on from there for any number of ticks, or
advance to any time, and none of the random instructions that it carries out is left out.

**Proof sketch.** Induction on what befalls the board: the source has been asked as often as there
have been random instructions. A random instruction does not fail, so that a tick that fails has
drawn no byte. -/
theorem effect_and_samples (i : Instruction) (b b' : Board (Panel D K S R))
    (m : Machine (Panel D K S R)) (ts : List Tick) (now : Nat) :
    Board.Effect i b (Board.execute i b).state ∧
      (∀ samples, b.Sampled samples b' →
        b'.devices.random = after samples.length b.devices.random ∧
          ∀ n j value, samples[n]? = some (j, value) →
            value = byte n b.devices.random &&& (j.operand 1).toUInt8) ∧
      (m.samples ts).map Prod.fst = (m.executed ts).filter (·.mnemonic = .random) ∧
      ∀ done, b.Sampled done m.toBoard →
        b.Sampled (done ++ m.samples ts) (m.turns ts).toBoard ∧
          b.Sampled (done ++ m.samples ((eventsTo now m).map Event.tick))
            (advanceTo now m).state.toBoard := by
  refine ⟨Board.effect_execute i b, fun samples h => ⟨h.random_eq, fun n j value => h.value_eq⟩,
    map_fst_samples m ts, fun done h => ⟨sampled_turns h ts, ?_⟩⟩
  rw [toBoard_advanceTo]
  exact sampled_turns h _

/-- A machine with a program that asks for two random bytes, of the second for the lower half. -/
def dice : Machine (Panel Scripted.Screen Scripted.Keys Scripted.Buzzer Replay) :=
  (load (.ofList [0xc0, 0xff, 0xc1, 0x0f])
    { fresh with devices := { benchDevices with random := .ofList [0xab, 0xcd] } }).state

/-- With a tick of a timer between them the two instructions get the first byte and the second. -/
theorem effect_and_samples_dice :
    let ts := [.cycle, .delay, .cycle]
    (dice.samples ts).map Prod.snd = [0xab, 0xcd &&& 0x0f] ∧
      (dice.turns ts).devices.random = after 2 dice.devices.random := by
  intro ts
  obtain ⟨-, hsampled, hall, hgo⟩ := effect_and_samples (Instruction.unknown 0) dice.toBoard
    (dice.turns ts).toBoard dice ts 0
  obtain ⟨hrandom, hvalue⟩ := hsampled _ (hgo [] .start).1
  have hfst : (dice.samples ts).map Prod.fst =
      [⟨.random, 0xc0ff, [0, 0xff]⟩, ⟨.random, 0xc10f, [1, 0x0f]⟩] := by
    rw [hall]
    decide +kernel
  have htwo : (dice.samples ts).length = 2 := by
    rw [← List.length_map Prod.fst, hfst]
    rfl
  obtain ⟨⟨i, first⟩, ⟨j, second⟩, hsamples⟩ := List.length_eq_two.mp htwo
  rw [hsamples] at hfst hrandom hvalue ⊢
  cases hfst
  have hfirst : first = 0xab := hvalue 0 _ first rfl
  have hsecond : second = 0xcd &&& 0x0f := hvalue 1 _ second rfl
  rw [hfirst, hsecond]
  exact ⟨rfl, hrandom⟩

end Machine

end Chip8
