import Mathlib.Control.Monad.Basic
import Mathlib.Data.List.Induction
import Mathlib.Data.List.Infix
import Chip8.Proofs.Machine.Built
import Chip8.Proofs.Machine.Turns

set_option autoImplicit false
set_option relaxedAutoImplicit false

/-!
# Subroutines

A call leaves its return address on the call stack, above the addresses of the calls that it is
nested in. Whatever the program does below it, and whatever fails, these addresses stay where they
are until the call returns.

## Main results

* `Chip8.Machine.prefix_turn` — one tick leaves the addresses there, or is the return.
* `Chip8.Machine.call_frame` — the addresses are there as long as the call lasts, and then it
  returns.
-/

namespace Chip8

namespace Machine

variable {δ : Type} [Devices δ] {m m' : Machine δ} {i : Instruction} {ns : List Notice}
  {base : List UInt16} {back : UInt16}

/-! ## One tick -/

/-- An instruction leaves a return address and those below it on the stack, or it is the return
that takes the address off. -/
lemma prefix_cycle (h : cycle m = ⟨m', .ok i, ns⟩) (hframe : base ++ [back] <+: m.cpu.stack.held) :
    base ++ [back] <+: m'.cpu.stack.held ∨
      i.mnemonic = .ret ∧ m'.cpu.pc = back ∧ m'.cpu.stack.held = base := by
  rcases calls_cycle h with ⟨-, hheld⟩ | ⟨hi, hheld⟩ | ⟨-, -, hstack⟩
  · left
    rw [hheld]
    exact hframe.trans (List.prefix_append _ _)
  · -- the address that is taken off is the one in question, or it lies above it
    rw [hheld] at hframe
    rcases List.prefix_concat_iff.mp hframe with heq | hbelow
    · obtain ⟨hbase, hback⟩ := List.append_inj' heq rfl
      exact .inr ⟨hi, (List.singleton_inj.mp hback).symm, hbase.symm⟩
    · exact .inl hbelow
  · left
    rw [hstack]
    exact hframe

/-- **One tick leaves a return address and those below it on the stack**, or it is the instruction
that returns to the address. Neither a tick of a timer nor an instruction that fails changes the
stack. -/
lemma prefix_turn (t : Tick) (hframe : base ++ [back] <+: m.cpu.stack.held) :
    base ++ [back] <+: (m.turn t).cpu.stack.held ∨
      t = .cycle ∧ ∃ i ns, cycle m = ⟨m.turn t, .ok i, ns⟩ ∧ i.mnemonic = .ret ∧
        (m.turn t).cpu.pc = back ∧ (m.turn t).cpu.stack.held = base := by
  cases t with
  | delay =>
    left
    rw [cpu_turn_delay]
    exact hframe
  | sound =>
    left
    rw [cpu_turn_sound]
    exact hframe
  | cycle =>
    rcases m.turn_cycle with ⟨fault, ns, hc, -⟩ | ⟨i, ns, hc, -⟩
    · left
      have hstack : (m.turn .cycle).cpu.stack = m.cpu.stack :=
        same_of_error hc (p := .stack) (by decide)
      rw [hstack]
      exact hframe
    · rcases prefix_cycle hc hframe with hstill | ⟨hi, hpc, hheld⟩
      · exact .inl hstill
      · exact .inr ⟨rfl, i, ns, hc, hi, hpc, hheld⟩

/-! ## As long as a call lasts -/

/-- The addresses are on the stack as long as it is higher than they are.

**Proof sketch.** Induction on the ticks from the last one. A tick after which the addresses are
not there any more is the return, and after it the stack is not higher than the base. -/
lemma prefix_turns (hframe : base ++ [back] <+: m.cpu.stack.held) (ts : List Tick)
    (hdeep : ∀ done, done <+: ts → base.length < (m.turns done).cpu.stack.depth) :
    base ++ [back] <+: (m.turns ts).cpu.stack.held := by
  induction ts using List.reverseRecOn with
  | nil => exact hframe
  | append_singleton ts t ih =>
    have hbefore := ih fun done hdone => hdeep done (hdone.trans (List.prefix_append _ _))
    have hafter := hdeep (ts ++ [t]) List.prefix_rfl
    rw [turns_concat] at hafter ⊢
    rcases prefix_turn t hbefore with hstill | ⟨-, i, ns, -, -, -, hheld⟩
    · exact hstill
    · rw [← CallStack.length_held, hheld] at hafter
      omega

/-- **A call keeps its frame and returns to where it was made.** A call has been carried out, and
then instructions and ticks of the timers follow, with any outcome. As long as there are more
addresses on the stack than before the call, the oldest are those of before the call, and the next
is the one behind the call. The first tick after which there are no more is an instruction, and a
return; it goes on behind the call, with the stack that there was before the call.

**Proof sketch.** One instruction takes no more than one address off the stack, and none writes any
that is on it. So the address of the call goes only by the return that goes on there. -/
theorem call_frame {m₁ : Machine δ} (hcall : cycle m = ⟨m₁, .ok i, ns⟩) (hi : i.mnemonic = .call)
    (ts : List Tick)
    (hdeep : ∀ done, done <+: ts → m.cpu.stack.depth < (m₁.turns done).cpu.stack.depth) :
    m.cpu.stack.held.length < CallStack.capacity ∧
      m.cpu.stack.held ++ [m.cpu.pc + instructionSize] <+: (m₁.turns ts).cpu.stack.held ∧
      ∀ t, (m₁.turns (ts ++ [t])).cpu.stack.depth ≤ m.cpu.stack.depth →
        t = .cycle ∧ ∃ j ns, cycle (m₁.turns ts) = ⟨m₁.turns (ts ++ [t]), .ok j, ns⟩ ∧
          j.mnemonic = .ret ∧ (m₁.turns (ts ++ [t])).cpu.pc = m.cpu.pc + instructionSize ∧
          (m₁.turns (ts ++ [t])).cpu.stack.held = m.cpu.stack.held := by
  have hheld : m₁.cpu.stack.held = m.cpu.stack.held ++ [m.cpu.pc + instructionSize] := by
    rcases calls_cycle hcall with ⟨-, hheld⟩ | ⟨hret, -⟩ | ⟨hother, -, -⟩
    · exact hheld
    · rw [hi] at hret
      cases hret
    · exact absurd hi hother
  have hroom : m.cpu.stack.held.length < CallStack.capacity := by
    have hlength := congrArg List.length hheld
    rw [CallStack.length_held, List.length_append, List.length_singleton] at hlength
    have hle := m₁.cpu.stack.depth_le
    omega
  have hframe : m.cpu.stack.held ++ [m.cpu.pc + instructionSize] <+:
      (m₁.turns ts).cpu.stack.held := by
    refine prefix_turns (by rw [hheld]) ts fun done hdone => ?_
    rw [CallStack.length_held]
    exact hdeep done hdone
  refine ⟨hroom, hframe, fun t hback => ?_⟩
  rw [turns_concat] at hback ⊢
  rcases prefix_turn t hframe with hstill | hreturn
  · have hle := hstill.length_le
    rw [List.length_append, CallStack.length_held, CallStack.length_held,
      List.length_singleton] at hle
    omega
  · exact hreturn

/-- A machine with a program that calls a subroutine which calls another. -/
def nested : Machine (Panel Scripted.Screen Scripted.Keys Scripted.Buzzer Replay) :=
  (load (.ofList [0x22, 0x04, 0x12, 0x02, 0x22, 0x08, 0x00, 0xee, 0x00, 0xee]) fresh).state

/-- Between the two calls and the two returns the delay timer ticks twice, and fails once. -/
theorem call_frame_nested :
    let m₁ := nested.turn .cycle
    let ts := [.delay, .cycle, .delay, .cycle]
    (delayTick (m₁.turns [.delay, .cycle])).result ≠ .ok () ∧
      [0x202] <+: (m₁.turns ts).cpu.stack.held ∧
      (m₁.turns (ts ++ [.cycle])).cpu.pc = 0x202 ∧
      (m₁.turns (ts ++ [.cycle])).cpu.stack.held = [] := by
  intro m₁ ts
  have hcall : cycle nested = ⟨m₁, .ok (Table.standard.decode 0x2204), (cycle nested).notices⟩ := by
    have hresult : (cycle nested).result = .ok (Table.standard.decode 0x2204) := by decide +kernel
    rw [← hresult, show m₁ = (cycle nested).state from state_turn_cycle nested]
  have hdeep : ∀ done, done <+: ts →
      nested.cpu.stack.depth < (m₁.turns done).cpu.stack.depth := by
    intro done hdone
    have hall : ∀ done ∈ ts.inits, 0 < (m₁.turns done).cpu.stack.depth := by decide +kernel
    exact hall done ((List.mem_inits done ts).mpr hdone)
  obtain ⟨-, hframe, hback⟩ := call_frame hcall (by decide) ts hdeep
  obtain ⟨-, j, ns, -, -, hpc, hheld⟩ := hback .cycle (by decide +kernel)
  exact ⟨by decide +kernel, hframe, hpc, hheld⟩

end Machine

end Chip8
