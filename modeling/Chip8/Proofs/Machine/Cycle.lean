import Chip8.Machine.Basic
import Chip8.Proofs.Instruction.Flow

set_option autoImplicit false
set_option relaxedAutoImplicit false

/-!
# One instruction of a machine

A machine fetches the word at its program counter, and carries out what the standard table makes of
it. It fails when the word is not in memory, and when the instruction fails.

## Main results

* `Chip8.Machine.cycle_eq_ok`, `Chip8.Machine.cycle_eq_error` — what an instruction can lead to.
* `Chip8.Machine.cycle_of_outside` — a machine that has left memory stands still.
* `Chip8.Machine.result_cycle_iff` — when a machine fails.
* `Chip8.Machine.same_of_ok`, `Chip8.Machine.same_of_error` — what an instruction leaves alone.
* `Chip8.Machine.calls_cycle`, `Chip8.Machine.goesTo_cycle` — what it does to the call stack and
  the program counter.
-/

namespace Chip8

/-! ## Fetching -/

namespace Memory

lemma getWord_of_outside {m : Memory} {address : UInt16} (h : size < address.toNat + 2) :
    m.getWord address = .error (.outOfRange address.toNat 2) :=
  m.getWord_of_le (by omega)

lemma exists_getWord (m : Memory) {address : UInt16} (h : address.toNat + 2 ≤ size) :
    ∃ word, m.getWord address = .ok word :=
  ⟨_, m.getWord_of_lt (by omega)⟩

lemma getWord_eq_error {m : Memory} {address : UInt16} {fault : Fault} :
    m.getWord address = .error fault ↔
      size < address.toNat + 2 ∧ fault = .outOfRange address.toNat 2 := by
  rcases Nat.lt_or_ge size (address.toNat + 2) with h | h
  · rw [getWord_of_outside h, Except.error.injEq, eq_comm, and_iff_right h]
  · obtain ⟨word, hword⟩ := m.exists_getWord h
    rw [hword]
    simp only [reduceCtorEq, false_iff]
    omega

lemma le_of_getWord {m : Memory} {address word : UInt16} (h : m.getWord address = .ok word) :
    address.toNat + 2 ≤ size := by
  rcases Nat.lt_or_ge size (address.toNat + 2) with hout | hin
  · rw [getWord_of_outside hout] at h
    cases h
  · exact hin

end Memory

namespace Machine

section Cycle

variable {δ : Type} [Devices δ] {m m' : Machine δ} {i : Instruction} {fault : Fault}
  {ns : List Notice}

/-! ## What an instruction can lead to -/

/-- All that an instruction can lead to. -/
lemma cycle_eq (m : Machine δ) :
    cycle m =
      match m.memory.getWord m.cpu.pc with
      | .error fault => ⟨m, .error fault, []⟩
      | .ok word =>
        match Board.execute (Table.standard.decode word) m.toBoard with
        | ⟨b, .error fault, ns⟩ => ⟨{ m with toBoard := b }, .error fault, ns⟩
        | ⟨b, .ok (), ns⟩ =>
          ⟨{ m with toBoard := b, cycles := m.cycles + 1 }, .ok (Table.standard.decode word),
            ns⟩ := by
  cases hfetch : m.memory.getWord m.cpu.pc with
  | error fault =>
    have hquery : Action.query (fun m => m.memory.getWord m.cpu.pc) m =
        ⟨m, .error fault, []⟩ := by
      rw [Action.query, hfetch]
    exact Action.bind_of_error hquery
  | ok word =>
    have hquery : Action.query (fun m => m.memory.getWord m.cpu.pc) m = ⟨m, .ok word, []⟩ := by
      rw [Action.query, hfetch]
    refine (Action.bind_of_ok hquery).trans ?_
    dsimp only
    rcases hrun : Board.execute (Table.standard.decode word) m.toBoard with ⟨b, fault | ⟨⟩, ns⟩
    · have hboard : onBoard (Board.execute (Table.standard.decode word)) m =
          ⟨{ m with toBoard := b }, .error fault, ns⟩ := by
        simp only [onBoard, Action.zoom, hrun]
      rw [Action.bind_of_error hboard]
      rfl
    · have hboard : onBoard (Board.execute (Table.standard.decode word)) m =
          ⟨{ m with toBoard := b }, .ok (), ns⟩ := by
        simp only [onBoard, Action.zoom, hrun]
      rw [Action.bind_of_ok hboard, Action.modify_bind]
      simp [Pure.pure, Action.pure]

/-- **A machine that succeeds** has read the instruction at its program counter and carried it
out. -/
lemma cycle_eq_ok (h : cycle m = ⟨m', .ok i, ns⟩) :
    ∃ word b, m.memory.getWord m.cpu.pc = .ok word ∧ i = Table.standard.decode word ∧
      Board.execute i m.toBoard = ⟨b, .ok (), ns⟩ ∧
      m' = { m with toBoard := b, cycles := m.cycles + 1 } := by
  rw [cycle_eq] at h
  cases hfetch : m.memory.getWord m.cpu.pc with
  | error fault =>
    rw [hfetch] at h
    cases h
  | ok word =>
    rw [hfetch] at h
    dsimp only at h
    rcases hrun : Board.execute (Table.standard.decode word) m.toBoard with ⟨b, fault | ⟨⟩, ns⟩ <;>
      rw [hrun] at h <;> cases h
    exact ⟨word, b, rfl, rfl, hrun, rfl⟩

/-- **A machine that fails** has left memory and does nothing, or has read an instruction that
fails. -/
lemma cycle_eq_error (h : cycle m = ⟨m', .error fault, ns⟩) :
    (m.memory.getWord m.cpu.pc = .error fault ∧ m' = m) ∨
      ∃ word b, m.memory.getWord m.cpu.pc = .ok word ∧
        Board.execute (Table.standard.decode word) m.toBoard = ⟨b, .error fault, ns⟩ ∧
        m' = { m with toBoard := b } := by
  rw [cycle_eq] at h
  cases hfetch : m.memory.getWord m.cpu.pc with
  | error fault =>
    rw [hfetch] at h
    cases h
    exact .inl ⟨rfl, rfl⟩
  | ok word =>
    rw [hfetch] at h
    dsimp only at h
    rcases hrun : Board.execute (Table.standard.decode word) m.toBoard with ⟨b, fault | ⟨⟩, ns⟩ <;>
      rw [hrun] at h <;> cases h
    exact .inr ⟨word, b, rfl, hrun, rfl⟩

/-- **A machine that has left memory stands still.** -/
lemma cycle_of_outside (h : Memory.size < m.cpu.pc.toNat + 2) :
    cycle m = ⟨m, .error (.outOfRange m.cpu.pc.toNat 2), []⟩ := by
  rw [cycle_eq, Memory.getWord_of_outside h]

/-- An instruction that fails is not counted. -/
lemma cycles_of_error (h : (cycle m).result = .error fault) :
    (cycle m).state.cycles = m.cycles := by
  rcases hc : cycle m with ⟨m', r, ns⟩
  rw [hc] at h
  obtain rfl : r = .error fault := h
  rcases cycle_eq_error hc with ⟨-, rfl⟩ | ⟨word, b, -, -, rfl⟩ <;> rfl

/-- A machine fails when its program counter has left memory, and when the instruction there
fails. -/
lemma result_cycle_iff : (cycle m).result = .error fault ↔
    Memory.size < m.cpu.pc.toNat + 2 ∧ fault = .outOfRange m.cpu.pc.toNat 2 ∨
      ∃ word, m.memory.getWord m.cpu.pc = .ok word ∧
        Board.Fails (Table.standard.decode word) m.toBoard fault := by
  rw [← Memory.getWord_eq_error (m := m.memory), cycle_eq]
  cases hfetch : m.memory.getWord m.cpu.pc with
  | error fault' => simp
  | ok word =>
    simp only [reduceCtorEq, false_or, Except.ok.injEq, exists_eq_left', ← Board.result_execute_iff]
    rcases Board.execute (Table.standard.decode word) m.toBoard with ⟨b, fault' | ⟨⟩, ns⟩ <;> simp

/-! ## What an instruction leaves alone -/

/-- An instruction that succeeds leaves those places alone that its kind does not write. -/
lemma same_of_ok (h : cycle m = ⟨m', .ok i, ns⟩) {p : Place} (hp : p ∉ .pc :: i.mnemonic.writes) :
    p.Same m.toBoard m'.toBoard := by
  obtain ⟨word, b, -, -, hrun, rfl⟩ := cycle_eq_ok h
  have hframe := Board.writes_execute i m.toBoard p hp
  rw [hrun] at hframe
  exact hframe

/-- A failure leaves all but the registers, the memory and the devices alone. -/
lemma same_of_error (h : cycle m = ⟨m', .error fault, ns⟩) {p : Place}
    (hp : p ∉ [.registers, .memory, .devices]) : p.Same m.toBoard m'.toBoard := by
  rcases cycle_eq_error h with ⟨-, rfl⟩ | ⟨word, b, -, hrun, rfl⟩
  · exact p.same_refl _
  · have hsame := Board.same_of_error (congrArg Outcome.result hrun) hp
    rw [hrun] at hsame
    exact hsame

/-! ## Calls, returns and jumps -/

lemma calls_cycle (h : cycle m = ⟨m', .ok i, ns⟩) : i.Calls m.cpu m'.cpu := by
  obtain ⟨word, b, -, -, hrun, rfl⟩ := cycle_eq_ok h
  exact Board.calls_execute hrun

lemma goesTo_cycle (h : cycle m = ⟨m', .ok i, ns⟩) :
    ∃ target, i.GoesTo m.cpu target ∧ m'.cpu.pc = UInt16.ofNat target := by
  obtain ⟨word, b, -, -, hrun, rfl⟩ := cycle_eq_ok h
  exact Board.goesTo_execute hrun

end Cycle

end Machine

end Chip8
