import Mathlib.Control.Monad.Basic
import Chip8.Proofs.Machine.Built
import Chip8.Proofs.Machine.Turns

set_option autoImplicit false
set_option relaxedAutoImplicit false

/-!
# How far a program can get

The program counter and the return addresses are words that nothing cuts to the size of memory.
Yet they stay close to it, as every instruction has been read from memory. So adding to the program
counter never wraps, and a program that has left memory does not come back in at its beginning.

## Main definitions

* `Chip8.Cpu.Bounded` — a processor whose addresses are close to memory.
* `Chip8.Machine.Operated` — machines that have been worked with, and what they have carried out.

## Main results

* `Chip8.Machine.bounded_turn`, `Chip8.Machine.bounded_turns` — ticks keep the bounds.
* `Chip8.Machine.operated_bounded` — the bounds and what they are good for.
-/

namespace Chip8

/-! ## Operands -/

lemma Field.extract_le (f : Field) (word : UInt16) : (f.extract word).toNat ≤ f.mask.toNat := by
  rw [extract, UInt16.toNat_shiftRight, UInt16.toNat_and]
  exact Nat.le_trans (Nat.shiftRight_le _ _) Nat.and_le_right

/-- An operand of the instruction set has no more than twelve bits. -/
lemma Table.operand_le (word : UInt16) (n : Nat) :
    ((standard.decode word).operand n).toNat ≤ 0xfff := by
  have hmask : ∀ p ∈ standard, ∀ f ∈ p.fields, f.mask.toNat ≤ 0xfff := by decide
  unfold decode Instruction.operand
  cases hfind : standard.find? (·.accepts word) with
  | none => simp [Instruction.unknown]
  | some p =>
    have hp := List.mem_of_find?_eq_some hfind
    dsimp only [Pattern.read]
    cases hget : ((p.fields.take maxOperands).map (·.extract word))[n]? with
    | none => simp
    | some operand =>
      obtain ⟨f, hf, rfl⟩ := List.mem_map.mp (List.mem_of_getElem? hget)
      exact Nat.le_trans (f.extract_le word) (hmask p hp f (List.mem_of_mem_take hf))

/-! ## Bounds -/

/-- The addresses of a processor are close to memory, and the stack is as high as the calls and
returns among the instructions carried out have made it. -/
structure Cpu.Bounded (c : Cpu) (done : List Instruction) : Prop where
  /-- The greatest operand of a jump, and the greatest value of a register on top. -/
  pc_le : c.pc.toNat ≤ 0x10fe
  /-- A call is in memory, but the address behind it need not be. -/
  held_le : ∀ address ∈ c.stack.held, address.toNat ≤ Memory.size
  /-- Every call that has not returned is on the stack. -/
  depth_eq : c.stack.held.length + done.countP (·.mnemonic = .ret) =
    done.countP (·.mnemonic = .call)

/-- From an instruction in memory no other can be reached than those within bounds. -/
lemma Instruction.GoesTo.le {i : Instruction} {c : Cpu} {target : Nat} (h : i.GoesTo c target)
    (hpc : c.pc.toNat + 2 ≤ Memory.size) (hoperand : (i.operand 0).toNat ≤ 0xfff)
    (hheld : ∀ address ∈ c.stack.held, address.toNat ≤ Memory.size) : target ≤ 0x10fe := by
  unfold Memory.size at hpc hheld
  cases h with
  | next _ => omega
  | skip _ => omega
  | wait _ => omega
  | jump _ => omega
  | call _ => omega
  | beyond _ =>
    have hbyte := (c.v (nibble 0)).toNat_lt
    omega
  | back _ hlast =>
    have := hheld _ (List.mem_of_getLast? hlast)
    omega

/-- Adding to the program counter does not wrap. -/
lemma Cpu.Bounded.toNat_pc_add {c : Cpu} {done : List Instruction} (hb : c.Bounded done)
    {step : UInt16} (hstep : step.toNat ≤ 4) : (c.pc + step).toNat = c.pc.toNat + step.toNat := by
  have hpc := hb.pc_le
  rw [UInt16.toNat_add, Nat.mod_eq_of_lt (by omega)]

namespace Machine

variable {δ : Type} [Devices δ]

section Ticks

variable {m m' : Machine δ} {i : Instruction} {ns : List Notice} {done : List Instruction}

/-- Where a bounded machine goes on is told by exact arithmetic. -/
lemma goesTo_exact (hb : m.cpu.Bounded done) (h : cycle m = ⟨m', .ok i, ns⟩) :
    i.GoesTo m.cpu m'.cpu.pc.toNat ∧ m'.cpu.pc.toNat ≤ 0x10fe := by
  obtain ⟨target, hgoes, hpc⟩ := goesTo_cycle h
  obtain ⟨word, b, hfetch, rfl, -, -⟩ := cycle_eq_ok h
  have hle := hgoes.le (Memory.le_of_getWord hfetch) (Table.operand_le word 0) hb.held_le
  have hexact : m'.cpu.pc.toNat = target := by
    rw [hpc, UInt16.toNat_ofNat', Nat.mod_eq_of_lt (by omega)]
  rw [hexact]
  exact ⟨hgoes, hle⟩

/-- An instruction that succeeds keeps the bounds. -/
lemma bounded_cycle (hb : m.cpu.Bounded done) (h : cycle m = ⟨m', .ok i, ns⟩) :
    m'.cpu.Bounded (done ++ [i]) := by
  obtain ⟨word, b, hfetch, -, -, -⟩ := cycle_eq_ok h
  have hpc := (goesTo_exact hb h).2
  have hcount := hb.depth_eq
  rcases calls_cycle h with ⟨hi, hheld⟩ | ⟨hi, hheld⟩ | ⟨hcall, hret, hstack⟩
  · refine ⟨hpc, fun address hmem => ?_, ?_⟩
    · rw [hheld, List.mem_append, List.mem_singleton] at hmem
      rcases hmem with hmem | rfl
      · exact hb.held_le address hmem
      · rw [hb.toNat_pc_add (by decide)]
        exact Memory.le_of_getWord hfetch
    · rw [hheld]
      simp [hi]
      omega
  · refine ⟨hpc, fun address hmem => ?_, ?_⟩
    · exact hb.held_le address (hheld ▸ List.mem_append_left _ hmem)
    · rw [hheld, List.length_append, List.length_singleton] at hcount
      simp [hi]
      omega
  · refine ⟨hpc, fun address hmem => hb.held_le address (hstack ▸ hmem), ?_⟩
    rw [hstack]
    simpa [hcall, hret] using hcount

/-- **A tick keeps the bounds**, whether it succeeds or fails. -/
theorem bounded_turn (hb : m.cpu.Bounded done) (t : Tick) :
    (m.turn t).cpu.Bounded (done ++ (m.carriedOut t).toList) := by
  cases t with
  | delay =>
    rw [cpu_turn_delay, carriedOut, Option.toList_none, List.append_nil]
    exact ⟨hb.pc_le, hb.held_le, hb.depth_eq⟩
  | sound =>
    rw [cpu_turn_sound, carriedOut, Option.toList_none, List.append_nil]
    exact ⟨hb.pc_le, hb.held_le, hb.depth_eq⟩
  | cycle =>
    rcases m.turn_cycle with ⟨fault, ns, hc, hnone⟩ | ⟨i, ns, hc, hsome⟩
    · have hpc : (m.turn .cycle).cpu.pc = m.cpu.pc := same_of_error hc (p := .pc) (by decide)
      have hstack : (m.turn .cycle).cpu.stack = m.cpu.stack :=
        same_of_error hc (p := .stack) (by decide)
      rw [hnone, Option.toList_none, List.append_nil]
      exact ⟨hpc ▸ hb.pc_le, hstack ▸ hb.held_le, hstack ▸ hb.depth_eq⟩
    · rw [hsome]
      exact bounded_cycle hb hc

/-- Several ticks keep the bounds, by induction on the ticks. -/
theorem bounded_turns (hb : m.cpu.Bounded done) (ts : List Tick) :
    (m.turns ts).cpu.Bounded (done ++ m.executed ts) := by
  induction ts generalizing m done with
  | nil =>
    rw [executed, List.append_nil]
    exact hb
  | cons t ts ih =>
    rw [turns_cons, executed, ← List.append_assoc]
    exact ih (bounded_turn hb t)

/-- A machine that has left memory does not come back. -/
lemma pc_turns_of_outside (h : Memory.size < m.cpu.pc.toNat + 2) (ts : List Tick) :
    (m.turns ts).cpu.pc = m.cpu.pc := by
  induction ts generalizing m with
  | nil => rfl
  | cons t ts ih =>
    have hpc : (m.turn t).cpu.pc = m.cpu.pc := by
      cases t with
      | delay => rw [cpu_turn_delay]; rfl
      | sound => rw [cpu_turn_sound]; rfl
      | cycle => rw [state_turn_cycle, cycle_of_outside h]
    rw [turns_cons, ih (hpc ▸ h), hpc]

end Ticks

/-! ## Machines that have been worked with -/

/-- The machines that can be come to without a change from outside to the processor or the memory,
and the instructions that they have carried out: a machine is created, and worked with by any of
its actions, with any outcome. -/
inductive Operated : Machine δ → List Instruction → Prop where
  | create {config : Config} {devices : δ} {m : Machine δ} :
      Machine.create config devices = .ok m → Operated m []
  | load {m : Machine δ} {done : List Instruction} (feed : Feed) :
      Operated m done → Operated (load feed m).state done
  | cycle {m : Machine δ} {done : List Instruction} :
      Operated m done → Operated (cycle m).state (done ++ (cycle m).result.toOption.toList)
  | delayTick {m : Machine δ} {done : List Instruction} :
      Operated m done → Operated (delayTick m).state done
  | soundTick {m : Machine δ} {done : List Instruction} :
      Operated m done → Operated (soundTick m).state done
  | start {m : Machine δ} {done : List Instruction} (now : Nat) :
      Operated m done → Operated (start now m).state done
  | stop {m : Machine δ} {done : List Instruction} :
      Operated m done → Operated (stop m).state done
  | advanceTo {m : Machine δ} {done : List Instruction} (now : Nat) :
      Operated m done → Operated (advanceTo now m).state
        (done ++ m.executed ((eventsTo now m).map Event.tick))
  | editDevices {m : Machine δ} {done : List Instruction} (f : δ → δ) :
      Operated m done → Operated { m with devices := f m.devices } done

omit [Devices δ] in
lemma bounded_of_create {config : Config} {devices : δ} {m : Machine δ}
    (h : create config devices = .ok m) : m.cpu.Bounded [] := by
  obtain ⟨-, rfl⟩ := create_eq_ok h
  have hheld : Cpu.powerOn.stack.held = [] := rfl
  change Cpu.powerOn.Bounded []
  refine ⟨by decide, fun address hmem => ?_, ?_⟩
  · rw [hheld] at hmem
    cases hmem
  · rw [hheld]
    rfl

@[simp]
lemma cpu_stop (m : Machine δ) : (stop m).state.cpu = m.cpu := by
  have hkeep : Action.Keeps (fun m : Machine δ => m.cpu) (stop (δ := δ)) :=
    .bind (.zoom fun _ _ => rfl) fun _ => offstage_cpu.keeps_silence
  exact hkeep m

/-- Whatever is done to a machine, its processor is bounded. -/
lemma Operated.bounded {m : Machine δ} {done : List Instruction} (h : Operated m done) :
    m.cpu.Bounded done := by
  induction h with
  | create hcreate => exact bounded_of_create hcreate
  | load feed _ ih => exact ih
  | @cycle m done _ ih =>
    rw [← state_turn_cycle]
    exact bounded_turn ih .cycle
  | @delayTick m done _ ih =>
    have hturn := bounded_turn ih .delay
    rw [carriedOut, Option.toList_none, List.append_nil] at hturn
    exact hturn
  | @soundTick m done _ ih =>
    have hturn := bounded_turn ih .sound
    rw [carriedOut, Option.toList_none, List.append_nil] at hturn
    exact hturn
  | start now _ ih => exact ih
  | stop _ ih =>
    rw [cpu_stop]
    exact ih
  | advanceTo now _ ih =>
    rw [toBoard_advanceTo]
    exact bounded_turns ih _
  | editDevices f _ ih => exact ih

/-- **How far a program gets.** Whatever a machine has loaded and done since it was created, its
program counter is no greater than the greatest operand of a jump with the greatest value of a
register on top, no return address is behind the end of memory, and there are as many of them as
calls carried out that have not been followed by a return. So nothing that is added to the program
counter makes it wrap: the next instruction is where exact arithmetic puts it. If that is not in
memory, every further instruction fails there, whatever the timers do in between, and none is read
at a low address instead.

**Proof sketch.** An instruction lies in memory when it is carried out, its operands have twelve
bits and a register has eight. Failures and timers change neither the program counter nor the
stack. -/
theorem operated_bounded {m : Machine δ} {done : List Instruction} (h : m.Operated done) :
    m.cpu.pc.toNat ≤ 0x10fe ∧
      (∀ address ∈ m.cpu.stack.held, address.toNat ≤ Memory.size) ∧
      m.cpu.stack.held.length ≤ CallStack.capacity ∧
      m.cpu.stack.held.length + done.countP (·.mnemonic = .ret) =
        done.countP (·.mnemonic = .call) ∧
      (m.cpu.pc + instructionSize).toNat = m.cpu.pc.toNat + 2 ∧
      (m.cpu.pc + 2 * instructionSize).toNat = m.cpu.pc.toNat + 4 ∧
      (∀ m' i ns, cycle m = ⟨m', .ok i, ns⟩ → i.GoesTo m.cpu m'.cpu.pc.toNat) ∧
      (Memory.size < m.cpu.pc.toNat + 2 → ∀ ts,
        cycle (m.turns ts) = ⟨m.turns ts, .error (.outOfRange m.cpu.pc.toNat 2), []⟩) := by
  have hb := h.bounded
  refine ⟨hb.pc_le, hb.held_le, ?_, hb.depth_eq, hb.toNat_pc_add (by decide),
    hb.toNat_pc_add (by decide), fun m' i ns hcycle => (goesTo_exact hb hcycle).1,
    fun hout ts => ?_⟩
  · rw [CallStack.length_held]
    exact m.cpu.stack.depth_le
  · have hpc := pc_turns_of_outside hout ts
    rw [← hpc] at hout ⊢
    exact cycle_of_outside hout

/-- A machine with a program that jumps as far as there is a way to. -/
def leaper : Machine (Panel Scripted.Screen Scripted.Keys Scripted.Buzzer Replay) :=
  (load (.ofList [0x60, 0xff, 0xbf, 0xff]) fresh).state

/-- After the jump the machine is at the bound, and fails there, with ticks of the delay timer
before that of which one fails. -/
theorem operated_bounded_leaper :
    let m := (cycle (cycle leaper).state).state
    m.cpu.pc.toNat = 0x10fe ∧
      (cycle (m.turns [.delay, .delay, .cycle])).result = .error (.outOfRange 0x10fe 2) := by
  intro m
  have hm : m.Operated _ := .cycle (.cycle (.load _ (.create create_fresh)))
  obtain ⟨-, -, -, -, -, -, -, hfails⟩ := operated_bounded hm
  have hpc : m.cpu.pc.toNat = 0x10fe := by decide +kernel
  rw [hpc] at hfails
  refine ⟨hpc, ?_⟩
  rw [hfails (by decide)]

end Machine

end Chip8
