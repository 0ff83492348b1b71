import Mathlib.Data.List.Basic
import Chip8.Display.Frame
import Chip8.Keypad.Switches
import Chip8.Proofs.Instruction.Flow
import Chip8.Proofs.Instruction.Unread
import Chip8.Speaker.Basic

set_option autoImplicit false
set_option relaxedAutoImplicit false

/-!
# Slots of the call stack that are not in use

A return leaves its address in the slot that it was taken from. It cannot be found there: a slot is
written by a call before it is read by a return. So the call stack is a list of addresses, and
processors that hold the same list cannot be told apart by anything that is done with them.

## Main definitions

* `Chip8.Board.Agrees` — boards that are the same but for slots that are not in use.
* `Chip8.Board.Blind` — an action does not see such slots.
* `Chip8.Board.Operation`, `Chip8.Board.operate` — what can be done with a processor.
* `Chip8.Board.answers`, `Chip8.Board.operated` — what comes of several operations.
* `Chip8.Board.Listlike` — calls and returns told by the list of addresses.

## Main results

* `Chip8.Board.blind_execute` — an instruction does not see slots that are not in use.
* `Chip8.Board.blind_operate`, `Chip8.Board.agrees_operated` — neither does an operation, nor do
  several.
* `Chip8.Board.stale_slots_unseen` — the call stack is a list of at most sixteen addresses.
-/

namespace Chip8

variable {δ α β : Type}

/-! ## Boards that agree -/

/-- Two processors are the same, but for slots of the call stack that are not in use. -/
structure Cpu.Agrees (c c' : Cpu) : Prop where
  registers : c'.registers = c.registers
  index : c'.index = c.index
  pc : c'.pc = c.pc
  delay : c'.delay = c.delay
  sound : c'.sound = c.sound
  held : c'.stack.held = c.stack.held

/-- Two boards are the same, but for slots of the call stack that are not in use. -/
structure Board.Agrees (b b' : Board δ) : Prop where
  cpu : b.cpu.Agrees b'.cpu
  memory : b'.memory = b.memory
  devices : b'.devices = b.devices

/-- Two outcomes are the same, but for slots of the call stack that are not in use. -/
structure Outcome.Agrees (o o' : Outcome (Board δ) α) : Prop where
  state : o.state.Agrees o'.state
  result : o'.result = o.result
  notices : o'.notices = o.notices

namespace Cpu

variable {c c' : Cpu}

lemma Agrees.eq_with_stack (h : c.Agrees c') : c' = { c with stack := c'.stack } := by
  obtain ⟨registers, index, pc, delay, sound, stack⟩ := c'
  obtain ⟨rfl, rfl, rfl, rfl, rfl, -⟩ := h
  rfl

lemma agrees_with_stack {stack : CallStack} (h : stack.held = c.stack.held) :
    c.Agrees { c with stack := stack } :=
  ⟨rfl, rfl, rfl, rfl, rfl, h⟩

/-- A change in which the call stack plays no part leaves processors that agree. -/
lemma Agrees.map {g : Cpu → Cpu} (hg : Stackless g) (h : c.Agrees c') : (g c).Agrees (g c') := by
  rw [h.eq_with_stack, hg c c'.stack]
  exact agrees_with_stack (by rw [hg.stack_eq, h.held])

end Cpu

namespace Board

variable {b b' : Board δ}

lemma Agrees.exists_through (h : b.Agrees b') :
    ∃ stack, stack.held = b.cpu.stack.held ∧ b' = b.through (fun _ => stack) id := by
  obtain ⟨cpu, memory, devices⟩ := b'
  obtain ⟨hcpu, rfl, rfl⟩ := h
  refine ⟨cpu.stack, hcpu.held, ?_⟩
  rw [through, ← hcpu.eq_with_stack]
  rfl

lemma agrees_through {stack : CallStack} (h : stack.held = b.cpu.stack.held) :
    b.Agrees (b.through (fun _ => stack) id) :=
  ⟨Cpu.agrees_with_stack h, rfl, rfl⟩

/-! ## Actions that do not see them -/

/-- The action does not see slots of the call stack that are not in use: its outcome is the same on
boards that agree, whether it succeeds or fails. -/
def Blind (x : Action (Board δ) α) : Prop :=
  ∀ b b', b.Agrees b' → (x b).Agrees (x b')

namespace Blind

lemma pure (a : α) : Blind (Pure.pure a : Action (Board δ) α) :=
  fun _ _ h => ⟨h, rfl, rfl⟩

lemma note (notice : Notice) : Blind (Action.note notice : Action (Board δ) Unit) :=
  fun _ _ h => ⟨h, rfl, rfl⟩

lemma query {f : Board δ → Except Fault α} (hf : ∀ b b', b.Agrees b' → f b' = f b) :
    Blind (Action.query f) :=
  fun b b' h => ⟨h, hf b b' h, rfl⟩

lemma modifyCpu {g : Cpu → Cpu} (hg : Cpu.Stackless g) : Blind (modifyCpu (δ := δ) g) :=
  fun _ _ h => ⟨⟨h.cpu.map hg, h.memory, h.devices⟩, rfl, rfl⟩

lemma bind {x : Action (Board δ) α} {f : α → Action (Board δ) β} (hx : Blind x)
    (hf : ∀ a, Blind (f a)) : Blind (x >>= f) := by
  intro b b' h
  have hfirst := hx b b' h
  rcases hb : x b with ⟨s, r, ns⟩
  rcases hb' : x b' with ⟨s', r', ns'⟩
  rw [hb, hb'] at hfirst
  obtain ⟨hstate, hresult, hnotices⟩ := hfirst
  cases hresult
  cases hnotices
  cases r with
  | error fault =>
    rw [Action.bind_of_error hb, Action.bind_of_error hb']
    exact ⟨hstate, rfl, rfl⟩
  | ok a =>
    have hsecond := hf a s s' hstate
    rw [Action.bind_of_ok hb, Action.bind_of_ok hb']
    exact ⟨hsecond.state, hsecond.result, by rw [hsecond.notices]⟩

end Blind

end Board

/-! ## Putting on and taking off -/

namespace CallStack

variable {s : CallStack} {address : UInt16}

lemma length_held_le (s : CallStack) : s.held.length ≤ capacity := by
  rw [length_held]
  exact s.depth_le

lemma exists_push? (h : s.held.length < capacity) (address : UInt16) :
    ∃ s', s'.held = s.held ++ [address] ∧ s.push? address = some s' := by
  cases hpush : s.push? address with
  | none => exact absurd ((push?_eq_none s address).mp hpush) (Nat.ne_of_lt h)
  | some s' => exact ⟨s', held_of_push? hpush, rfl⟩

lemma exists_pop? {rest : List UInt16} (h : s.held = rest ++ [address]) :
    ∃ s', s'.held = rest ∧ s.pop? = some (address, s') := by
  cases hpop : s.pop? with
  | none =>
    rw [pop?_eq_none.mp hpop] at h
    exact absurd h.symm (List.append_ne_nil_of_right_ne_nil _ (List.cons_ne_nil _ _))
  | some popped =>
    obtain ⟨newest, s'⟩ := popped
    have hheld := held_of_pop? hpop
    rw [h] at hheld
    obtain ⟨hrest, hnewest⟩ := List.append_inj' hheld rfl
    obtain rfl := List.singleton_inj.mp hnewest
    exact ⟨s', hrest.symm, rfl⟩

end CallStack

namespace Board

variable {b : Board δ} {address : UInt16}

/-- Puts a return address on the call stack. -/
def putOn (address : UInt16) : Action (Board δ) Unit := fun b =>
  match b.cpu.push address with
  | .ok cpu => ⟨{ b with cpu := cpu }, .ok (), []⟩
  | .error fault => ⟨b, .error fault, []⟩

/-- Takes the newest return address off the call stack. -/
def takeOff : Action (Board δ) UInt16 := fun b =>
  match b.cpu.pop with
  | .ok (address, cpu) => ⟨{ b with cpu := cpu }, .ok address, []⟩
  | .error fault => ⟨b, .error fault, []⟩

lemma putOn_of_lt (h : b.cpu.stack.held.length < CallStack.capacity) (address : UInt16) :
    ∃ stack : CallStack, stack.held = b.cpu.stack.held ++ [address] ∧
      putOn address b = ⟨b.mapCpu ({ · with stack := stack }), .ok (), []⟩ := by
  obtain ⟨stack, hheld, hpush⟩ := CallStack.exists_push? h address
  exact ⟨stack, hheld, by simp only [putOn, Cpu.push, hpush, mapCpu]⟩

lemma putOn_of_full (h : b.cpu.stack.held.length = CallStack.capacity) (address : UInt16) :
    putOn address b = ⟨b, .error (.stackOverflow b.cpu.pc), []⟩ := by
  simp only [putOn, Cpu.push, (CallStack.push?_eq_none b.cpu.stack address).mpr h]

lemma takeOff_of_concat {rest : List UInt16} (h : b.cpu.stack.held = rest ++ [address]) :
    ∃ stack : CallStack, stack.held = rest ∧
      takeOff b = ⟨b.mapCpu ({ · with stack := stack }), .ok address, []⟩ := by
  obtain ⟨stack, hheld, hpop⟩ := CallStack.exists_pop? h
  exact ⟨stack, hheld, by simp only [takeOff, Cpu.pop, hpop, mapCpu]⟩

lemma takeOff_of_nil (h : b.cpu.stack.held = []) :
    takeOff b = ⟨b, .error (.stackUnderflow b.cpu.pc), []⟩ := by
  simp only [takeOff, Cpu.pop, CallStack.pop?_eq_none.mpr h]

/-- Whether there is room is told by the addresses in use. -/
lemma blind_putOn (address : UInt16) : Blind (putOn (δ := δ) address) := by
  intro b b' h
  rcases Nat.lt_or_eq_of_le b.cpu.stack.length_held_le with hroom | hfull
  · obtain ⟨stack, hheld, hput⟩ := putOn_of_lt hroom address
    obtain ⟨stack', hheld', hput'⟩ := putOn_of_lt (h.cpu.held ▸ hroom) address
    rw [hput, hput']
    have hsame : stack'.held = stack.held := by rw [hheld', hheld, h.cpu.held]
    exact ⟨⟨{ h.cpu with held := hsame }, h.memory, h.devices⟩, rfl, rfl⟩
  · rw [putOn_of_full hfull, putOn_of_full (h.cpu.held ▸ hfull), h.cpu.pc]
    exact ⟨h, rfl, rfl⟩

/-- The newest address is one of those in use. -/
lemma blind_takeOff : Blind (takeOff (δ := δ)) := by
  intro b b' h
  rcases List.eq_nil_or_concat' b.cpu.stack.held with hnil | ⟨rest, address, hlast⟩
  · rw [takeOff_of_nil hnil, takeOff_of_nil (h.cpu.held.trans hnil), h.cpu.pc]
    exact ⟨h, rfl, rfl⟩
  · obtain ⟨stack, hheld, htake⟩ := takeOff_of_concat hlast
    obtain ⟨stack', hheld', htake'⟩ := takeOff_of_concat (h.cpu.held.trans hlast)
    rw [htake, htake']
    have hsame : stack'.held = stack.held := hheld'.trans hheld.symm
    exact ⟨⟨{ h.cpu with held := hsame }, h.memory, h.devices⟩, rfl, rfl⟩

/-! ## Instructions -/

/-- A call puts the address behind itself on the stack, and then jumps. -/
lemma callTo_eq (target : UInt16) (b : Board δ) :
    callTo target b =
      (putOn (b.cpu.pc + instructionSize) >>= fun _ => jumpTo fun _ => target) b := by
  change _ = Action.bind _ _ b
  simp only [callTo, putOn, Action.bind]
  cases b.cpu.push (b.cpu.pc + instructionSize) <;> rfl

/-- A return jumps to the address that it takes off the stack. -/
lemma returnToCaller_eq : returnToCaller (δ := δ) =
    takeOff >>= fun address => jumpTo fun _ => address := by
  funext b
  change _ = Action.bind _ _ b
  simp only [returnToCaller, takeOff, Action.bind]
  cases b.cpu.pop <;> rfl

lemma blind_jumpTo (target : UInt16) : Blind (jumpTo (δ := δ) fun _ => target) :=
  fun _ _ h => ⟨⟨{ h.cpu with pc := rfl }, h.memory, h.devices⟩, rfl, rfl⟩

lemma blind_callTo (target : UInt16) : Blind (callTo (δ := δ) target) := by
  intro b b' h
  rw [callTo_eq, callTo_eq, h.cpu.pc]
  exact Blind.bind (blind_putOn _) (fun _ => blind_jumpTo target) b b' h

lemma blind_returnToCaller : Blind (returnToCaller (δ := δ)) := by
  rw [returnToCaller_eq]
  exact .bind blind_takeOff blind_jumpTo

variable [Devices δ]

/-- The effect of an instruction. Calls and returns apart it neither looks at the call stack nor
writes it. -/
lemma blind_perform (i : Instruction) : Blind (perform (δ := δ) i) := by
  by_cases hcall : i.mnemonic = .call
  · simp only [perform, hcall]
    exact blind_callTo _
  by_cases hret : i.mnemonic = .ret
  · simp only [perform, hret]
    exact blind_returnToCaller
  intro b b' h
  obtain ⟨stack, hheld, rfl⟩ := h.exists_through
  have hkept : (perform i b).state.cpu.stack = b.cpu.stack :=
    writes_perform i b .stack (Mnemonic.stack_notMem_writes hcall hret)
  rw [through_perform Devices.isHom_id hcall hret b]
  exact ⟨agrees_through (by rw [hkept, hheld]), rfl, rfl⟩

/-- **An instruction does not see slots that are not in use**, whether it succeeds or fails. -/
theorem blind_execute (i : Instruction) : Blind (execute (δ := δ) i) := by
  intro b b' h
  rw [execute, Action.get_bind, Action.get_bind, h.cpu.pc]
  refine Blind.bind (.note _) (fun _ => .bind (blind_perform i) fun flow => ?_) b b' h
  exact .modifyCpu fun _ _ => rfl

/-! ## Operations -/

/-- What can be done with a processor that has memory and devices at hand. -/
inductive Operation (δ : Type) where
  /-- A return address is put on the call stack. -/
  | push (address : UInt16)
  /-- The newest return address is taken off the call stack. -/
  | pop
  /-- A period of the delay timer is over. -/
  | tickDelay
  /-- A period of the sound timer is over. -/
  | tickSound
  /-- The processor is switched off and on again. -/
  | reset
  /-- An instruction is carried out. -/
  | execute (i : Instruction)
  /-- Something is done to memory and devices from outside, as when a key goes down. -/
  | outside (f : Memory × δ → Memory × δ)

/-- What is answered to an operation that succeeds. -/
inductive Answer where
  /-- It is done. -/
  | done
  /-- The address that was taken off. -/
  | address (address : UInt16)
  /-- What is left on the timer. -/
  | timer (left : UInt8)
  deriving DecidableEq, Repr

/-- Does an operation. -/
def operate : Operation δ → Action (Board δ) Answer
  | .push address => do
    putOn address
    return .done
  | .pop => do
    let address ← takeOff
    return .address address
  | .tickDelay => do
    modifyCpu Cpu.tickDelay
    Action.query fun b => .ok (.timer b.cpu.delay)
  | .tickSound => do
    modifyCpu Cpu.tickSound
    Action.query fun b => .ok (.timer b.cpu.sound)
  | .reset => do
    modifyCpu Cpu.reset
    return .done
  | .execute i => do
    execute i
    return .done
  | .outside f => do
    Action.modify fun b =>
      let (memory, devices) := f (b.memory, b.devices)
      ⟨b.cpu, memory, devices⟩
    return .done

/-- The board after several operations, each done whatever came of those before. -/
def operated (b : Board δ) (ops : List (Operation δ)) : Board δ :=
  ops.foldl (fun b op => (operate op b).state) b

/-- What is answered to several operations, one after the other, with the notices given. -/
def answers : Board δ → List (Operation δ) → List (Except Fault Answer × List Notice)
  | _, [] => []
  | b, op :: ops =>
    ((operate op b).result, (operate op b).notices) :: answers (operate op b).state ops

lemma operated_concat (b : Board δ) (ops : List (Operation δ)) (op : Operation δ) :
    b.operated (ops ++ [op]) = (operate op (b.operated ops)).state := by
  rw [operated, List.foldl_append]
  rfl

/-- **An operation does not see slots that are not in use.** -/
theorem blind_operate (op : Operation δ) : Blind (operate op) := by
  cases op with
  | push address => exact .bind (blind_putOn address) fun _ => .pure _
  | pop => exact .bind blind_takeOff fun _ => .pure _
  | tickDelay =>
    exact .bind (.modifyCpu fun _ _ => rfl) fun _ => .query fun b b' h => by rw [h.cpu.delay]
  | tickSound =>
    exact .bind (.modifyCpu fun _ _ => rfl) fun _ => .query fun b b' h => by rw [h.cpu.sound]
  | reset =>
    exact fun _ _ h => ⟨⟨Cpu.agrees_with_stack rfl, h.memory, h.devices⟩, rfl, rfl⟩
  | execute i => exact .bind (blind_execute i) fun _ => .pure _
  | outside f =>
    refine .bind (fun b b' h => ?_) fun _ => .pure _
    simp only [Action.modify, h.memory, h.devices]
    exact ⟨⟨h.cpu, rfl, rfl⟩, rfl, rfl⟩

/-- **Several operations do not see slots that are not in use**, by induction on the operations. -/
theorem agrees_operated {b b' : Board δ} (h : b.Agrees b') (ops : List (Operation δ)) :
    b'.answers ops = b.answers ops ∧ (b.operated ops).Agrees (b'.operated ops) := by
  induction ops generalizing b b' with
  | nil => exact ⟨rfl, h⟩
  | cons op ops ih =>
    obtain ⟨hstate, hresult, hnotices⟩ := blind_operate op b b' h
    obtain ⟨hanswers, hoperated⟩ := ih hstate
    refine ⟨?_, hoperated⟩
    rw [answers, answers, hresult, hnotices, hanswers]

/-- After a reset it does not matter any more what the call stack was like. -/
lemma Agrees.reset_eq {b b' : Board δ} (h : b.Agrees b') :
    (operate .reset b').state = (operate .reset b).state := by
  obtain ⟨cpu, memory, devices⟩ := b'
  obtain ⟨-, rfl, rfl⟩ := h
  rfl

/-! ## The stack as a list -/

/-- The call stack is a list of at most sixteen addresses, the newest of them at its end. -/
structure Listlike (b : Board δ) : Prop where
  /-- There are no more addresses than slots. -/
  length_le : b.cpu.stack.held.length ≤ CallStack.capacity
  /-- As long as there is room, an address is put behind the others. -/
  push : ∀ address, b.cpu.stack.held.length < CallStack.capacity →
    ∃ stack : CallStack, stack.held = b.cpu.stack.held ++ [address] ∧
      operate (.push address) b = ⟨b.mapCpu ({ · with stack := stack }), .ok .done, []⟩
  /-- When there is no room, nothing changes. -/
  push_full : ∀ address, b.cpu.stack.held.length = CallStack.capacity →
    operate (.push address) b = ⟨b, .error (.stackOverflow b.cpu.pc), []⟩
  /-- The last address is taken off and answered. -/
  pop : ∀ rest address, b.cpu.stack.held = rest ++ [address] →
    ∃ stack : CallStack, stack.held = rest ∧
      operate .pop b = ⟨b.mapCpu ({ · with stack := stack }), .ok (.address address), []⟩
  /-- When there is no address, nothing changes. -/
  pop_empty : b.cpu.stack.held = [] →
    operate .pop b = ⟨b, .error (.stackUnderflow b.cpu.pc), []⟩
  /-- An instruction that succeeds puts an address on, takes one off or leaves the list alone. -/
  calls : ∀ i b' ns, execute i b = ⟨b', .ok (), ns⟩ → i.Calls b.cpu b'.cpu
  /-- An instruction that fails leaves the whole of the stack alone. -/
  failure : ∀ i fault, (execute i b).result = .error fault →
    (execute i b).state.cpu.stack = b.cpu.stack

/-- The call stack of any board is a list. -/
lemma listlike (b : Board δ) : b.Listlike where
  length_le := b.cpu.stack.length_held_le
  push address hroom := by
    obtain ⟨stack, hheld, hput⟩ := putOn_of_lt hroom address
    exact ⟨stack, hheld, Action.bind_of_ok hput⟩
  push_full address hfull := Action.bind_of_error (putOn_of_full hfull address)
  pop rest address hlast := by
    obtain ⟨stack, hheld, htake⟩ := takeOff_of_concat hlast
    exact ⟨stack, hheld, Action.bind_of_ok htake⟩
  pop_empty hempty := Action.bind_of_error (takeOff_of_nil hempty)
  calls _ _ _ hrun := calls_execute hrun
  failure _ _ hfails := same_of_error hfails (p := .stack) (by decide)

/-- **Slots that are not in use cannot be seen.** Take two boards that are the same but for slots of
the call stack that are not in use. Whatever is done with them, and whatever fails, they answer the
same, give the same notice, and are again the same but for such slots. A reset makes them the same
altogether. All the time the call stack is a list of at most sixteen addresses: an address is put
behind the others as long as there is room, the last one is taken off as long as there is one, and
otherwise the operation fails and changes nothing. A call and a return do this to the list, and no
other instruction touches it.

**Proof sketch.** An instruction that neither calls nor returns does the same with any call stack,
and leaves it alone. What a call and a return do is told by the addresses in use: a call writes the
slot that it brings into use, and a return reads none but the last of those in use. -/
theorem stale_slots_unseen {b b' : Board δ} (h : b.Agrees b') :
    (∀ ops : List (Operation δ),
      b'.answers ops = b.answers ops ∧ (b.operated ops).Agrees (b'.operated ops)) ∧
      (∀ ops : List (Operation δ), b'.operated (ops ++ [.reset]) = b.operated (ops ++ [.reset])) ∧
      ∀ ops : List (Operation δ), (b.operated ops).Listlike := by
  refine ⟨agrees_operated h, fun ops => ?_, fun ops => listlike _⟩
  rw [operated_concat, operated_concat]
  exact (agrees_operated h ops).2.reset_eq

/-- A board on which an address was put on the stack and taken off again, beside one on which
nothing has happened. Neither has an address to return to until there has been a call. -/
theorem stale_slots_unseen_taken :
    let devices : Panel Frame Switches Silent Replay := ⟨.standard, .none, ⟨⟩, .ofList []⟩
    let b : Board _ := ⟨.powerOn, .powerOn, devices⟩
    let b' := b.operated [.push 0x300, .pop]
    let ops : List (Operation _) :=
      [.execute ⟨.ret, 0x00ee, []⟩, .execute ⟨.call, 0x2400, [0x400]⟩, .pop, .pop]
    b.Agrees b' ∧ b'.cpu ≠ b.cpu ∧
      (b'.answers ops).map Prod.fst = [.error (.stackUnderflow 0x200), .ok .done,
        .ok (.address 0x202), .error (.stackUnderflow 0x400)] ∧
      (b'.operated (ops ++ [.reset])).cpu = .powerOn := by
  intro devices b b' ops
  have hagree : b.Agrees b' := ⟨⟨rfl, rfl, rfl, rfl, rfl, by decide⟩, rfl, rfl⟩
  obtain ⟨hsame, hreset, -⟩ := stale_slots_unseen hagree
  refine ⟨hagree, by decide +kernel, ?_, ?_⟩
  · rw [(hsame ops).1]
    decide +kernel
  · rw [hreset]
    rfl

end Board

end Chip8
