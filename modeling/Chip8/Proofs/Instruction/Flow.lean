import Chip8.Proofs.Instruction.Failure

set_option autoImplicit false
set_option relaxedAutoImplicit false

/-!
# Where an instruction goes on

What an instruction does to the program counter and to the call stack. Calls and returns apart, no
instruction touches the stack, and none that fails touches either.

## Main definitions

* `Chip8.Mnemonic.flows` — how an instruction of a kind may go on.
* `Chip8.Instruction.GoesTo` — the addresses at which an instruction may go on, in exact arithmetic.
* `Chip8.Instruction.Calls` — all that an instruction that succeeds can do to the call stack.

## Main results

* `Chip8.Board.goesTo_execute` — an instruction goes on at one of its addresses, cut to a word.
* `Chip8.Board.calls_execute` — an instruction that succeeds calls, returns or does neither.
-/

namespace Chip8

/-- Instructions of this kind set the program counter themselves. -/
def Mnemonic.jumps (m : Mnemonic) : Bool := m ∈ [.jump, .jumpBeyond, .call, .ret]

/-- How an instruction of this kind may go on when it succeeds. -/
def Mnemonic.flows : Mnemonic → List Flow
  | .jump | .jumpBeyond | .call | .ret => [.jumped]
  | .skipEqByte | .skipNeByte | .skipEq | .skipNe | .skipKey | .skipNoKey => [.next, .skip]
  | .waitKey => [.next, .wait]
  | _ => [.next]

namespace Mnemonic

variable {m : Mnemonic}

lemma jumps_iff : m.jumps ↔ m = .jump ∨ m = .jumpBeyond ∨ m = .call ∨ m = .ret := by
  simp [jumps]

lemma jumps_of_jumped (h : .jumped ∈ m.flows) : m.jumps := by
  revert h
  cases m <;> decide

lemma eq_waitKey (h : .wait ∈ m.flows) : m = .waitKey := by
  revert h
  cases m <;> decide

lemma pc_notMem_writes (h : m.jumps = false) : Place.pc ∉ m.writes := by
  revert h
  cases m <;> decide

lemma stack_notMem_writes (hcall : m ≠ .call) (hret : m ≠ .ret) : Place.stack ∉ m.writes := by
  revert hcall hret
  cases m <;> decide

end Mnemonic

namespace Instruction

/-- The addresses at which an instruction may go on when it succeeds. They are numbers, and not cut
to a word. -/
inductive GoesTo (i : Instruction) (c : Cpu) : Nat → Prop where
  /-- The next instruction. -/
  | next : i.mnemonic.jumps = false → GoesTo i c (c.pc.toNat + 2)
  /-- The one behind the next. -/
  | skip : .skip ∈ i.mnemonic.flows → GoesTo i c (c.pc.toNat + 4)
  /-- The same instruction again. -/
  | wait : i.mnemonic = .waitKey → GoesTo i c c.pc.toNat
  /-- The operand of a jump. -/
  | jump : i.mnemonic = .jump → GoesTo i c (i.operand 0).toNat
  /-- The operand of a call. -/
  | call : i.mnemonic = .call → GoesTo i c (i.operand 0).toNat
  /-- The operand of a jump and the register `V0`. -/
  | beyond : i.mnemonic = .jumpBeyond → GoesTo i c ((i.operand 0).toNat + (c.v (nibble 0)).toNat)
  /-- The newest return address. -/
  | back {address : UInt16} : i.mnemonic = .ret → c.stack.held.getLast? = some address →
      GoesTo i c address.toNat

/-- All that an instruction that succeeds can do to the call stack. -/
inductive Calls (i : Instruction) (c c' : Cpu) : Prop where
  /-- A call puts the address behind itself on top. -/
  | call : i.mnemonic = .call → c'.stack.held = c.stack.held ++ [c.pc + instructionSize] →
      Calls i c c'
  /-- A return takes the address off the top, and goes on there. -/
  | ret : i.mnemonic = .ret → c.stack.held = c'.stack.held ++ [c'.pc] → Calls i c c'
  /-- All others leave the stack alone. -/
  | other : i.mnemonic ≠ .call → i.mnemonic ≠ .ret → c'.stack = c.stack → Calls i c c'

end Instruction

namespace CallStack

variable {s s' : CallStack} {address : UInt16}

lemma held_of_push? (h : s.push? address = some s') : s'.held = s.held ++ [address] := by
  have hheld := held_push? s address
  rw [h] at hheld
  split at hheld
  · exact Option.some.inj hheld
  · cases hheld

lemma held_of_pop? (h : s.pop? = some (address, s')) : s.held = s'.held ++ [address] := by
  have hheld := held_pop? s
  rw [h] at hheld
  split at hheld
  · cases hheld
  · exact (Option.some.inj hheld).symm

end CallStack

namespace Board

variable {δ : Type} {i : Instruction} {b b' : Board δ} {flow : Flow} {ns : List Notice}

/-! ## Calls and returns -/

lemma held_callTo {target : UInt16} (h : callTo target b = ⟨b', .ok flow, ns⟩) :
    flow = .jumped ∧ b'.cpu.pc = target ∧
      b'.cpu.stack.held = b.cpu.stack.held ++ [b.cpu.pc + instructionSize] := by
  simp only [callTo, Cpu.push] at h
  cases hpush : b.cpu.stack.push? (b.cpu.pc + instructionSize) with
  | none =>
    rw [hpush] at h
    cases h
  | some stack =>
    rw [hpush] at h
    cases h
    exact ⟨rfl, rfl, CallStack.held_of_push? hpush⟩

lemma held_returnToCaller (h : returnToCaller b = ⟨b', .ok flow, ns⟩) :
    flow = .jumped ∧ b.cpu.stack.held = b'.cpu.stack.held ++ [b'.cpu.pc] := by
  simp only [returnToCaller, Cpu.pop] at h
  cases hpop : b.cpu.stack.pop? with
  | none =>
    rw [hpop] at h
    cases h
  | some popped =>
    rw [hpop] at h
    cases h
    exact ⟨rfl, CallStack.held_of_pop? hpop⟩

variable [Devices δ]

/-! ## The flow of an instruction -/

/-- An instruction goes on in one of the ways of its kind. -/
lemma flow_perform (h : perform i b = ⟨b', .ok flow, ns⟩) : flow ∈ i.mnemonic.flows := by
  unfold perform at h
  revert h
  cases i.mnemonic with
  | ret =>
    intro h
    simp [Mnemonic.flows, (held_returnToCaller h).1]
  | call =>
    intro h
    simp [Mnemonic.flows, (held_callTo h).1]
  | skipEqByte | skipNeByte | skipEq | skipNe | skipKey | skipNoKey =>
    intro h
    simp only [skipIf] at h
    cases h
    simp only [Mnemonic.flows]
    split <;> simp
  | draw =>
    intro h
    simp only [drawSprite, Action.get_bind] at h
    rw [modifyCpu, Action.modify_bind] at h
    -- whatever the rows lead to, the step behind them gives one value only
    simp [Mnemonic.flows, Action.ok_of_bind (b := .next) (fun _ _ => rfl) h]
  | waitKey =>
    intro h
    simp only [awaitKey] at h
    rcases hk : Keypad.takePressed b.devices with ⟨_ | key, d⟩ <;> rw [hk] at h <;> cases h <;>
      simp [Mnemonic.flows]
  | digits | store | load =>
    intro h
    simp only [Action.get_bind] at h
    simp [Mnemonic.flows, Action.ok_of_bind (b := .next) (fun _ _ => rfl) h]
  | _ =>
    intro h
    cases h
    simp [Mnemonic.flows]

/-- **An instruction goes on at one of its addresses**, cut to a word. -/
theorem goesTo_execute (h : execute i b = ⟨b', .ok (), ns⟩) :
    ∃ target, i.GoesTo b.cpu target ∧ b'.cpu.pc = UInt16.ofNat target := by
  obtain ⟨b₁, flow, ns₁, hperform, rfl⟩ := execute_eq_ok h
  change ∃ target, i.GoesTo b.cpu target ∧ flow.advance b₁.cpu.pc = UInt16.ofNat target
  have hflow := flow_perform hperform
  by_cases hjumps : i.mnemonic.jumps
  · unfold perform at hperform
    rcases Mnemonic.jumps_iff.mp hjumps with hi | hi | hi | hi <;> simp only [hi] at hperform
    · cases hperform
      exact ⟨_, .jump hi, (UInt16.ofNat_toNat ..).symm⟩
    · cases hperform
      exact ⟨_, .beyond hi, by simp [Flow.advance, mapCpu]⟩
    · obtain ⟨rfl, hpc, -⟩ := held_callTo hperform
      exact ⟨_, .call hi, by simp [Flow.advance, hpc]⟩
    · obtain ⟨rfl, hheld⟩ := held_returnToCaller hperform
      exact ⟨_, .back hi (by rw [hheld, List.getLast?_concat]), by simp [Flow.advance]⟩
  · have hpc : b₁.cpu.pc = b.cpu.pc := by
      have hframe := writes_perform i b .pc (Mnemonic.pc_notMem_writes (by simpa using hjumps))
      rw [hperform] at hframe
      exact hframe
    rw [hpc]
    cases flow with
    | next => exact ⟨_, .next (by simpa using hjumps), by simp [Flow.advance, instructionSize]⟩
    | skip => exact ⟨_, .skip hflow, by simp [Flow.advance, instructionSize]⟩
    | jumped => exact absurd (Mnemonic.jumps_of_jumped hflow) hjumps
    | wait => exact ⟨_, .wait (Mnemonic.eq_waitKey hflow), by simp [Flow.advance]⟩

/-- An instruction that can go on in one way only moves the program counter to the next one. -/
lemma pc_execute (hflows : i.mnemonic.flows = [.next]) (h : (execute i b).result = .ok ()) :
    (execute i b).state.cpu.pc = b.cpu.pc + instructionSize := by
  have hstays : Place.pc ∉ i.mnemonic.writes := by
    revert hflows
    cases i.mnemonic <;> decide
  rcases hexecute : execute i b with ⟨b', r, ns⟩
  rw [hexecute] at h
  obtain rfl : r = .ok () := h
  obtain ⟨b₁, flow, ns₁, hperform, rfl⟩ := execute_eq_ok hexecute
  have hflow := flow_perform hperform
  rw [hflows, List.mem_singleton] at hflow
  have hpc : Place.pc.Same b (perform i b).state := writes_perform i b _ hstays
  rw [hperform] at hpc
  rw [hflow]
  exact congrArg (· + instructionSize) hpc

/-- **An instruction that succeeds calls, returns or leaves the call stack alone.** -/
theorem calls_execute (h : execute i b = ⟨b', .ok (), ns⟩) : i.Calls b.cpu b'.cpu := by
  obtain ⟨b₁, flow, ns₁, hperform, rfl⟩ := execute_eq_ok h
  by_cases hcall : i.mnemonic = .call
  · unfold perform at hperform
    simp only [hcall] at hperform
    obtain ⟨-, -, hheld⟩ := held_callTo hperform
    exact .call hcall hheld
  by_cases hret : i.mnemonic = .ret
  · unfold perform at hperform
    simp only [hret] at hperform
    obtain ⟨rfl, hheld⟩ := held_returnToCaller hperform
    exact .ret hret hheld
  have hframe := writes_perform i b .stack (Mnemonic.stack_notMem_writes hcall hret)
  rw [hperform] at hframe
  exact .other hcall hret hframe

end Board

end Chip8
