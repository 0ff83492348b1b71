import Chip8.Proofs.Instruction.Frame

set_option autoImplicit false
set_option relaxedAutoImplicit false

/-!
# When an instruction fails

An instruction fails for three reasons: there is no call to return from, there is no room for one
more call, or it goes through memory from the index on and comes to its end. A failure leaves the
program counter, the index, the timers and the call stack alone, so that the program can be told
where it stands.

## Main definitions

* `Chip8.Memory.walk` — what comes of going through bytes of memory one after the other.
* `Chip8.Instruction.reach` — how many bytes an instruction goes through.
* `Chip8.Board.Fails` — the faults of an instruction, by their causes.

## Main results

* `Chip8.Board.result_execute_iff` — an instruction fails exactly for these causes.
* `Chip8.Board.same_of_error` — what a failure leaves alone.
-/

namespace Chip8

/-! ## Going through memory -/

namespace Memory

/-- What comes of going through `count` bytes one after the other from an address on: it ends at
the first byte that is not in memory. -/
def walk (address : UInt16) (count : Nat) : Except Fault Unit :=
  if count = 0 ∨ address.toNat + count ≤ size then .ok ()
  else .error (.outOfRange (max address.toNat size) 1)

variable {address : UInt16} {count : Nat} {fault : Fault}

lemma walk_zero (address : UInt16) : walk address 0 = .ok () := by
  simp [walk]

/-- An address in memory is so small that the next one does not wrap. -/
lemma toNat_add_one (h : address.toNat < size) : (address + 1).toNat = address.toNat + 1 := by
  unfold size at h
  rw [UInt16.toNat_add, UInt16.toNat_one]
  omega

/-- A byte that is in memory is passed. -/
lemma walk_succ_of_lt (h : address.toNat < size) (count : Nat) :
    walk address (count + 1) = walk (address + 1) count := by
  have hnext := toNat_add_one h
  have hinside : count + 1 = 0 ∨ address.toNat + (count + 1) ≤ size ↔
      count = 0 ∨ (address + 1).toNat + count ≤ size := by
    rw [hnext]
    omega
  have hmax : max address.toNat size = max (address + 1).toNat size := by
    rw [hnext]
    omega
  simp only [walk, hinside, hmax]

lemma walk_succ_of_le (h : size ≤ address.toNat) (count : Nat) :
    walk address (count + 1) = .error (.outOfRange address.toNat 1) := by
  have houtside : ¬ (count + 1 = 0 ∨ address.toNat + (count + 1) ≤ size) := by
    omega
  rw [walk, if_neg houtside, Nat.max_eq_left h]

/-- The way leads to its end when it is empty or stays in memory. -/
lemma walk_eq_ok : walk address count = .ok () ↔ count = 0 ∨ address.toNat + count ≤ size := by
  unfold walk
  split
  · rename_i h
    exact iff_of_true rfl h
  · rename_i h
    exact iff_of_false (by simp) h

/-- The way ends early when it is not empty and leads out of memory. -/
lemma walk_eq_error : walk address count = .error fault ↔
    count ≠ 0 ∧ size < address.toNat + count ∧
      fault = .outOfRange (max address.toNat size) 1 := by
  unfold walk
  split
  · rename_i h
    simp only [reduceCtorEq, false_iff]
    omega
  · rename_i h
    rw [Except.error.injEq, eq_comm]
    constructor
    · exact fun hfault => ⟨by omega, by omega, hfault⟩
    · exact fun hfault => hfault.2.2

end Memory

/-- The number of bytes that an instruction goes through from the index on. -/
def Instruction.reach (i : Instruction) : Nat :=
  match i.mnemonic with
  | .draw => (i.operand 2).toNat
  | .digits => 3
  | .store | .load => (i.register 0).val + 1
  | _ => 0

namespace CallStack

lemma pop?_eq_none {s : CallStack} : s.pop? = none ↔ s.held = [] := by
  rw [← List.length_eq_zero_iff, length_held, ← Option.map_eq_none_iff, held_pop?]
  simp

lemma push?_eq_none (s : CallStack) (address : UInt16) :
    s.push? address = none ↔ s.held.length = capacity := by
  have hle := s.depth_le
  rw [length_held, ← Option.map_eq_none_iff, held_push?]
  simp only [ite_eq_right_iff, reduceCtorEq, imp_false]
  omega

end CallStack

namespace Board

variable {δ α β : Type}

/-- The faults of an instruction, by their causes. -/
inductive Fails (i : Instruction) (b : Board δ) : Fault → Prop where
  /-- There is no call to return from. -/
  | underflow : i.mnemonic = .ret → b.cpu.stack.held = [] → Fails i b (.stackUnderflow b.cpu.pc)
  /-- There is no room for one more call. -/
  | overflow : i.mnemonic = .call → b.cpu.stack.held.length = CallStack.capacity →
      Fails i b (.stackOverflow b.cpu.pc)
  /-- Memory comes to its end on the way. -/
  | outside : i.reach ≠ 0 → Memory.size < b.cpu.index.toNat + i.reach →
      Fails i b (.outOfRange (max b.cpu.index.toNat Memory.size) 1)

/-- An instruction misses one byte at a time. -/
lemma Fails.size_eq_one {i : Instruction} {b : Board δ} {address count : Nat}
    (h : Fails i b (.outOfRange address count)) : count = 1 := by
  generalize hfault : Fault.outOfRange address count = fault at h
  cases h <;> cases hfault
  rfl

/-! ## The three loops -/

/-- The first byte and then the others. -/
lemma result_bind_walk {x : Action (Board δ) α} {f : α → Action (Board δ) Unit}
    {address : UInt16} {count : Nat}
    (hx : ∀ b, (x b).result.map (fun _ => ()) = Memory.walk address 1)
    (hf : ∀ a b, (f a b).result = Memory.walk (address + 1) count) (b : Board δ) :
    ((x >>= f) b).result = Memory.walk address (count + 1) := by
  have hfirst := hx b
  rcases Nat.lt_or_ge address.toNat Memory.size with h | h
  · rw [Memory.walk_succ_of_lt h, Memory.walk_zero] at hfirst
    rcases hb : x b with ⟨b', fault | a, ns⟩ <;> rw [hb] at hfirst
    · cases hfirst
    · rw [Action.bind_of_ok hb, Memory.walk_succ_of_lt h]
      exact hf a b'
  · rw [Memory.walk_succ_of_le h] at hfirst
    rcases hb : x b with ⟨b', fault | a, ns⟩ <;> rw [hb] at hfirst <;> cases hfirst
    rw [Action.bind_of_error hb, Memory.walk_succ_of_le h]

lemma result_fetchByte (address : UInt16) (b : Board δ) :
    (fetchByte address b).result.map (fun _ => ()) = Memory.walk address 1 := by
  rw [fetchByte, Action.query]
  rcases Nat.lt_or_ge address.toNat Memory.size with h | h
  · rw [b.memory.getByte_of_lt h, Memory.walk_succ_of_lt h, Memory.walk_zero]
    rfl
  · rw [b.memory.getByte_of_le h, Memory.walk_succ_of_le h]
    rfl

lemma result_storeByte (address : UInt16) (value : UInt8) (b : Board δ) :
    (storeByte address value b).result.map (fun _ => ()) = Memory.walk address 1 := by
  rw [storeByte, Action.attempt]
  rcases Nat.lt_or_ge address.toNat Memory.size with h | h
  · rw [b.memory.setByte_of_lt h, Memory.walk_succ_of_lt h, Memory.walk_zero]
    rfl
  · rw [b.memory.setByte_of_le h, Memory.walk_succ_of_le h]
    rfl

lemma result_storeBytes (address : UInt16) (bytes : List UInt8) (b : Board δ) :
    (storeBytes address bytes b).result = Memory.walk address bytes.length := by
  induction bytes generalizing address b with
  | nil => exact (Memory.walk_zero address).symm
  | cons byte rest ih =>
    exact result_bind_walk (result_storeByte address byte) (fun _ => ih (address + 1)) b

lemma result_loadRegisters (address : UInt16) (rs : List Register) (b : Board δ) :
    (loadRegisters address rs b).result = Memory.walk address rs.length := by
  induction rs generalizing address b with
  | nil => exact (Memory.walk_zero address).symm
  | cons r rest ih =>
    exact result_bind_walk (result_fetchByte address) (fun _ _ => ih (address + 1) _) b

lemma length_registersUpTo (x : Register) : (registersUpTo x).length = x.val + 1 := by
  revert x
  decide

variable [Devices δ]

lemma result_drawRows (left top : Nat) (address : UInt16) (count : Nat) (b : Board δ) :
    (drawRows left top address count b).result = Memory.walk address count := by
  induction count generalizing top address b with
  | zero => exact (Memory.walk_zero address).symm
  | succ count ih =>
    exact result_bind_walk (result_fetchByte address) (fun _ _ => ih _ (address + 1) _) b

/-! ## Whole instructions -/

/-- An instruction succeeds if its effect does, and then moves the program counter on. -/
lemma execute_eq (i : Instruction) (b : Board δ) :
    execute i b =
      match perform i b with
      | ⟨b', .ok flow, ns⟩ =>
        ⟨b'.mapCpu fun c => { c with pc := flow.advance c.pc }, .ok (),
          .executing b.cpu.pc i :: ns⟩
      | ⟨b', .error fault, ns⟩ => ⟨b', .error fault, .executing b.cpu.pc i :: ns⟩ := by
  have hnote : Action.note (.executing b.cpu.pc i) b = ⟨b, .ok (), [.executing b.cpu.pc i]⟩ := rfl
  rw [execute, Action.get_bind, Action.bind_of_ok hnote]
  rcases h : perform i b with ⟨b', fault | flow, ns⟩
  · rw [Action.bind_of_error h]
    rfl
  · rw [Action.bind_of_ok h]
    simp [modifyCpu, Action.modify]

/-- Besides its effect an instruction changes nothing but the program counter. -/
lemma part_execute {τ : Type} (part : Board δ → τ)
    (h : ∀ b pc, part (b.mapCpu fun c => { c with pc := pc }) = part b) (i : Instruction)
    (b : Board δ) : part (execute i b).state = part (perform i b).state := by
  rw [execute_eq]
  rcases perform i b with ⟨b', fault | flow, ns⟩
  · rfl
  · exact h b' (flow.advance b'.cpu.pc)

lemma execute_eq_ok {i : Instruction} {b b' : Board δ} {ns : List Notice}
    (h : execute i b = ⟨b', .ok (), ns⟩) :
    ∃ b₁ flow ns₁, perform i b = ⟨b₁, .ok flow, ns₁⟩ ∧
      b' = b₁.mapCpu fun c => { c with pc := flow.advance c.pc } := by
  rw [execute_eq] at h
  rcases hp : perform i b with ⟨b₁, fault | flow, ns₁⟩ <;> rw [hp] at h <;> cases h
  exact ⟨b₁, flow, ns₁, rfl, rfl⟩

lemma result_execute (i : Instruction) (b : Board δ) :
    (execute i b).result = (perform i b).result.map fun _ => () := by
  rw [execute_eq]
  rcases perform i b with ⟨b', fault | flow, ns⟩ <;> rfl

lemma execute_eq_error {i : Instruction} {b : Board δ} {fault : Fault}
    (h : (execute i b).result = .error fault) :
    ∃ ns, perform i b = ⟨(execute i b).state, .error fault, ns⟩ := by
  rw [execute_eq] at h ⊢
  rcases hp : perform i b with ⟨b', fault' | flow, ns⟩ <;> rw [hp] at h <;> cases h
  exact ⟨ns, rfl⟩

/-- Calls and returns apart, an instruction goes through its bytes. -/
lemma result_execute_of_ne {i : Instruction} (hret : i.mnemonic ≠ .ret) (hcall : i.mnemonic ≠ .call)
    (b : Board δ) : (execute i b).result = Memory.walk b.cpu.index i.reach := by
  have hdone (x : Except Fault Unit) (flow : Flow) :
      ((x.map fun _ => flow).map fun _ => ()) = x := by
    cases x <;> rfl
  rw [result_execute]
  unfold perform Instruction.reach
  cases hi : i.mnemonic with
  | ret => exact absurd hi hret
  | call => exact absurd hi hcall
  | draw =>
    simp only [drawSprite, Action.get_bind]
    rw [modifyCpu, Action.modify_bind, Action.result_bind_of_ok (b := .next) fun _ _ => rfl, hdone]
    exact result_drawRows _ _ _ _ _
  | digits =>
    simp only [Action.get_bind]
    rw [Action.result_bind_of_ok (b := .next) fun _ _ => rfl, hdone, result_storeBytes]
    rfl
  | store =>
    simp only [Action.get_bind]
    rw [Action.result_bind_of_ok (b := .next) fun _ _ => rfl, hdone, result_storeBytes,
      List.length_map, length_registersUpTo]
  | load =>
    simp only [Action.get_bind]
    rw [Action.result_bind_of_ok (b := .next) fun _ _ => rfl, hdone, result_loadRegisters,
      length_registersUpTo]
  | waitKey =>
    rw [Memory.walk_zero]
    simp only [awaitKey]
    rcases Keypad.takePressed b.devices with ⟨_ | key, d⟩ <;> rfl
  | _ =>
    rw [Memory.walk_zero]
    rfl

lemma result_execute_of_ret {i : Instruction} (hi : i.mnemonic = .ret) (b : Board δ) :
    (execute i b).result =
      if b.cpu.stack.held = [] then .error (.stackUnderflow b.cpu.pc) else .ok () := by
  rw [result_execute]
  simp only [perform, hi, returnToCaller, Cpu.pop, ← CallStack.pop?_eq_none]
  cases b.cpu.stack.pop? <;> rfl

lemma result_execute_of_call {i : Instruction} (hi : i.mnemonic = .call) (b : Board δ) :
    (execute i b).result =
      if b.cpu.stack.held.length = CallStack.capacity then .error (.stackOverflow b.cpu.pc)
      else .ok () := by
  rw [result_execute]
  simp only [perform, hi, callTo, Cpu.push,
    ← CallStack.push?_eq_none b.cpu.stack (b.cpu.pc + instructionSize)]
  cases b.cpu.stack.push? (b.cpu.pc + instructionSize) <;> rfl

/-- **An instruction fails exactly for the causes there are**, and then with the fault that goes
with the cause. -/
theorem result_execute_iff {i : Instruction} {b : Board δ} {fault : Fault} :
    (execute i b).result = .error fault ↔ Fails i b fault := by
  by_cases hret : i.mnemonic = .ret
  · have hreach : i.reach = 0 := by simp [Instruction.reach, hret]
    rw [result_execute_of_ret hret]
    constructor
    · intro h
      split at h <;> cases h
      exact .underflow hret ‹_›
    · rintro (⟨-, hheld⟩ | ⟨hcall, -⟩ | ⟨hpos, -⟩)
      · rw [if_pos hheld]
      · rw [hret] at hcall
        cases hcall
      · exact absurd hreach hpos
  by_cases hcall : i.mnemonic = .call
  · have hreach : i.reach = 0 := by simp [Instruction.reach, hcall]
    rw [result_execute_of_call hcall]
    constructor
    · intro h
      split at h <;> cases h
      exact .overflow hcall ‹_›
    · rintro (⟨hret', -⟩ | ⟨-, hfull⟩ | ⟨hpos, -⟩)
      · exact absurd hret' hret
      · rw [if_pos hfull]
      · exact absurd hreach hpos
  rw [result_execute_of_ne hret hcall, Memory.walk_eq_error]
  constructor
  · rintro ⟨hpos, hout, rfl⟩
    exact .outside hpos hout
  · rintro (⟨hret', -⟩ | ⟨hcall', -⟩ | ⟨hpos, hout⟩)
    · exact absurd hret' hret
    · exact absurd hcall' hcall
    · exact ⟨hpos, hout, rfl⟩

/-! ## What a failure leaves alone -/

omit [Devices δ] in
/-- An instruction that fails is one of these. -/
lemma Fails.mnemonic {i : Instruction} {b : Board δ} {fault : Fault} (h : Fails i b fault) :
    i.mnemonic ∈ [.ret, .call, .draw, .digits, .store, .load] := by
  cases h with
  | underflow hi => simp [hi]
  | overflow hi => simp [hi]
  | outside hpos =>
    unfold Instruction.reach at hpos
    split at hpos
    · simp [*]
    · simp [*]
    · simp [*]
    · simp [*]
    · exact absurd rfl hpos

/-- **A failure leaves the registers' surroundings alone**: the index, the program counter, both
timers and the call stack are what they were. -/
theorem same_of_error {i : Instruction} {b : Board δ} {fault : Fault}
    (h : (execute i b).result = .error fault) {p : Place}
    (hp : p ∉ [.registers, .memory, .devices]) : p.Same b (execute i b).state := by
  have hmem := (result_execute_iff.mp h).mnemonic
  obtain ⟨ns, hperform⟩ := execute_eq_error h
  have hframe := writes_perform i b p
  rw [hperform] at hframe
  generalize (execute i b).state = b' at hperform hframe ⊢
  simp only [List.mem_cons, List.not_mem_nil, or_false, not_or] at hmem hp
  obtain ⟨hregisters, hmemory, hdevices⟩ := hp
  unfold perform at hperform
  rcases hmem with hi | hi | hi | hi | hi | hi <;>
    simp only [hi, Mnemonic.writes, Action.get_bind] at hperform hframe
  · -- a call or a return that fails does nothing at all
    unfold returnToCaller at hperform
    split at hperform <;> cases hperform
    exact p.same_refl b
  · unfold callTo at hperform
    split at hperform <;> cases hperform
    exact p.same_refl b
  · exact hframe (by simp [hregisters, hdevices])
  · exact hframe (by simp [hmemory])
  · -- the index is moved only when all bytes have been passed
    have hbytes := Action.bind_eq_error (b := .next) (fun _ _ => rfl) hperform
    have hloop := writes_storeBytes b.cpu.index ((registersUpTo (i.register 0)).map b.cpu.v) b p
    rw [hbytes] at hloop
    exact hloop (by simp [hmemory])
  · have hbytes := Action.bind_eq_error (b := .next) (fun _ _ => rfl) hperform
    have hloop := writes_loadRegisters b.cpu.index (registersUpTo (i.register 0)) b p
    rw [hbytes] at hloop
    exact hloop (by simp [hregisters])

/-- A failure leaves that part of the devices alone which drawing does not reach. -/
theorem part_of_error {τ : Type} {i : Instruction} {b : Board δ} {fault : Fault}
    (h : (execute i b).result = .error fault) {part : δ → τ}
    (hpart : ∀ d x y bit, part (Display.draw d x y bit).2 = part d) :
    part (execute i b).state.devices = part b.devices := by
  have hmem := (result_execute_iff.mp h).mnemonic
  obtain ⟨ns, hperform⟩ := execute_eq_error h
  have hspares : i.mnemonic.Spares part := by
    simp only [List.mem_cons, List.not_mem_nil, or_false] at hmem
    rcases hmem with hi | hi | hi | hi | hi | hi <;> rw [hi]
    case inr.inr.inl => exact hpart
    all_goals trivial
  have hkeep := spares_perform hspares b
  rw [hperform] at hkeep
  exact hkeep

end Board

end Chip8
