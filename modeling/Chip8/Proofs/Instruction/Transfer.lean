import Mathlib.Tactic.Tauto
import Chip8.Display.Frame
import Chip8.Keypad.Switches
import Chip8.Proofs.Instruction.Effect
import Chip8.Proofs.Instruction.Flow
import Chip8.Proofs.Memory.Bytes

set_option autoImplicit false
set_option relaxedAutoImplicit false

/-!
# Bytes between registers and memory

Three kinds of instructions carry bytes between the registers and memory, one byte after the other:
two store bytes from the index on, and one loads them. When memory comes to its end on the way, the
bytes before that have been carried, and no others.

## Main definitions

* `Chip8.Board.Stored`, `Chip8.Board.Loaded` — what is in memory or in the registers afterwards.

## Main results

* `Chip8.Board.array_storeBytes`, `Chip8.Board.v_loadRegisters` — the two loops.
* `Chip8.Board.execute_transfer` — the whole instruction.
-/

namespace Chip8

/-! ## Bytes that fall behind the end -/

namespace Bytes

/-- What is put from an address on is put there byte by byte. -/
lemma put_cons (a : Bytes) (start : Nat) (byte : UInt8) (rest : List UInt8) :
    a.put start (byte :: rest) = (a.put start [byte]).put (start + 1) rest := by
  funext k
  simp only [put, List.length_cons, List.length_nil]
  rcases Nat.lt_trichotomy k.val start with hk | hk | hk
  · rw [dif_neg (by omega), dif_neg (by omega), dif_neg (by omega)]
  · rw [dif_pos (by omega), dif_neg (by omega), dif_pos (by omega)]
    simp only [hk, Nat.sub_self, List.getElem_cons_zero]
  · by_cases hlast : k.val < start + 1 + rest.length
    · obtain ⟨j, hj⟩ : ∃ j, k.val - start = j + 1 := ⟨k.val - (start + 1), by omega⟩
      have hj' : k.val - (start + 1) = j := by omega
      rw [dif_pos (by omega), dif_pos (by omega)]
      simp only [hj, hj', List.getElem_cons_succ]
    · rw [dif_neg (by omega), dif_neg (by omega), dif_neg (by omega)]

/-- Of the bytes that are put somewhere, those that fall behind the end do not count. -/
lemma put_take (a : Bytes) (start : Nat) (data : List UInt8) :
    a.put start (data.take (Memory.size - start)) = a.put start data := by
  funext k
  have hk := k.isLt
  simp only [put, List.length_take, List.getElem_take]
  by_cases hin : start ≤ k.val ∧ k.val < start + data.length
  · rw [dif_pos hin, dif_pos (by omega)]
  · rw [dif_neg hin, dif_neg (by omega)]

lemma put_of_le (a : Bytes) {start : Nat} (h : Memory.size ≤ start) (data : List UInt8) :
    a.put start data = a := by
  rw [← put_take, Nat.sub_eq_zero_of_le h, List.take_zero, Memory.put_nil]

end Bytes

namespace Board

variable {δ : Type}

/-! ## The two loops -/

/-- **Bytes that are stored one after the other** are in memory afterwards, but for those that fall
behind its end.

**Proof sketch.** Induction on the bytes. The first is stored if it lies in memory, and then the
address of the second does not wrap. If it does not, the loop ends, and the other bytes lie behind
the end as well. -/
lemma array_storeBytes (address : UInt16) (bytes : List UInt8) (b : Board δ) :
    (storeBytes address bytes b).state.memory.array =
      b.memory.array.put address.toNat bytes := by
  induction bytes generalizing address b with
  | nil => exact (Memory.put_nil _ _).symm
  | cons byte rest ih =>
    rcases Nat.lt_or_ge address.toNat Memory.size with h | h
    · have hroom : address.toNat + [byte].length ≤ Memory.size := h
      obtain ⟨m, hwrite, harray⟩ := b.memory.write_eq hroom
      have hstore : storeByte address byte b = ⟨{ b with memory := m }, .ok (), []⟩ := by
        rw [storeByte, Action.attempt, Memory.setByte_eq, hwrite]
        rfl
      rw [storeBytes, Action.bind_of_ok hstore, ih, Memory.toNat_add_one h, harray,
        ← Bytes.put_cons]
    · have hstore : storeByte address byte b = ⟨b, .error (.outOfRange address.toNat 1), []⟩ := by
        rw [storeByte, Action.attempt, b.memory.setByte_of_le h]
        rfl
      rw [storeBytes, Action.bind_of_error hstore, Bytes.put_of_le _ h]

/-- **Registers that are loaded one after the other** hold the bytes of memory afterwards, but for
those whose bytes fall behind its end. -/
lemma v_loadRegisters {rs : List Register} (hrs : rs.Nodup) (address : UInt16) (b : Board δ)
    (j : Nat) (hj : j < rs.length) :
    (loadRegisters address rs b).state.cpu.v rs[j] =
      (b.memory.bytes[address.toNat + j]?).getD (b.cpu.v rs[j]) := by
  induction rs generalizing address b j with
  | nil => exact absurd hj (Nat.not_lt_zero j)
  | cons r rest ih =>
    obtain ⟨hr, hrest⟩ := List.nodup_cons.mp hrs
    rcases Nat.lt_or_ge address.toNat Memory.size with h | h
    · have hbyte : b.memory.bytes[address.toNat]? = some b.memory.bytes[address.toNat] :=
        Vector.getElem?_eq_getElem h
      generalize b.memory.bytes[address.toNat] = value at hbyte
      have hfetch : fetchByte address b = ⟨b, .ok value, []⟩ := by
        rw [fetchByte, Action.query, Memory.getByte_eq_ok.mpr hbyte]
      rw [loadRegisters, Action.bind_of_ok hfetch, modifyCpu, Action.modify_bind]
      cases j with
      | zero =>
        -- the register is not loaded a second time
        have hkeep := keeps_register_loadRegisters hr (address + 1) (b.mapCpu (·.setV r value))
        rw [List.getElem_cons_zero, Nat.add_zero, hbyte, Option.getD_some]
        exact hkeep.trans ((b.cpu.v_setV r r value).trans (if_pos rfl))
      | succ j =>
        have hj' : j < rest.length := Nat.lt_of_succ_lt_succ hj
        have hne : rest[j] ≠ r := fun heq => hr (heq ▸ List.getElem_mem hj')
        rw [List.getElem_cons_succ, ih hrest (address + 1) _ j hj', Memory.toNat_add_one h, mapCpu,
          v_setV_of_ne hne, Nat.add_right_comm, Nat.add_assoc]
    · have hfetch : fetchByte address b = ⟨b, .error (.outOfRange address.toNat 1), []⟩ := by
        rw [fetchByte, Action.query, b.memory.getByte_of_le h]
      have hnone : b.memory.bytes[address.toNat + j]? = none :=
        Vector.getElem?_eq_none (Nat.le_trans h (Nat.le_add_right _ _))
      rw [loadRegisters, Action.bind_of_error hfetch, hnone, Option.getD_none]

/-! ## The registers in order -/

lemma registersUpTo_eq (x : Register) : registersUpTo x = (List.finRange 16).take (x.val + 1) := by
  revert x
  decide

/-- The values of the registers from the first to a given one. -/
lemma map_registersUpTo (c : Cpu) (x : Register) :
    (registersUpTo x).map c.v = c.registers.toList.take (x.val + 1) := by
  have hall : (List.finRange 16).map c.v = c.registers.toList := by
    apply List.ext_getElem
    · simp
    · intro j hj hj'
      simp [Cpu.v, Vector.get]
  rw [registersUpTo_eq, List.map_take, hall]

lemma getElem_registersUpTo {x r : Register} (h : r.val < (registersUpTo x).length) :
    (registersUpTo x)[r.val] = r := by
  simp only [registersUpTo_eq, List.getElem_take, List.getElem_finRange]
  rfl

lemma nodup_registersUpTo (x : Register) : (registersUpTo x).Nodup :=
  (List.nodup_finRange 16).filter _

/-- Three digits make up a byte. -/
lemma digits_decimalDigits (value : UInt8) : ∃ h t u : UInt8, decimalDigits value = [h, t, u] ∧
    h ≤ 9 ∧ t ≤ 9 ∧ u ≤ 9 ∧ 100 * h.toNat + 10 * t.toNat + u.toNat = value.toNat := by
  have hvalue := value.toNat_lt
  have hundreds : (value / 100).toNat = value.toNat / 100 := UInt8.toNat_div value 100
  have htens : (value / 10 % 10).toNat = value.toNat / 10 % 10 := by
    rw [UInt8.toNat_mod, UInt8.toNat_div]
    rfl
  have hunits : (value % 10).toNat = value.toNat % 10 := UInt8.toNat_mod value 10
  have hnine : (9 : UInt8).toNat = 9 := rfl
  refine ⟨_, _, _, rfl, ?_, ?_, ?_, ?_⟩
  · rw [UInt8.le_iff_toNat_le, hundreds, hnine]
    omega
  · rw [UInt8.le_iff_toNat_le, htens, hnine]
    omega
  · rw [UInt8.le_iff_toNat_le, hunits, hnine]
    omega
  · rw [hundreds, htens, hunits]
    omega

/-! ## Instructions -/

/-- What a board is after bytes have been stored from the index on. -/
structure Stored (b : Board δ) (bytes : List UInt8) (b' : Board δ) : Prop where
  /-- The bytes are in memory from the index on. All others are as before. -/
  array_eq : b'.memory.array = b.memory.array.put b.cpu.index.toNat bytes
  /-- Where programs are put is the same. -/
  loadAddress_eq : b'.memory.loadAddress = b.memory.loadAddress
  /-- No register has changed. -/
  registers_eq : b'.cpu.registers = b.cpu.registers

/-- What a board is after so many registers have been loaded from the index on. -/
structure Loaded (b : Board δ) (count : Nat) (b' : Board δ) : Prop where
  /-- The first registers hold the bytes of memory. -/
  loaded : ∀ r : Register, r.val < count →
    b.memory.bytes[b.cpu.index.toNat + r.val]? = some (b'.cpu.v r)
  /-- The others are as before. -/
  others : ∀ r : Register, count ≤ r.val → b'.cpu.v r = b.cpu.v r
  /-- No byte of memory has changed. -/
  memory_eq : b'.memory = b.memory

section Devices

variable [Devices δ] {i : Instruction}

/-- An instruction that stores bytes and then at most moves the index has stored those that lie in
memory. -/
lemma stored_execute {bytes : List UInt8} {next : Unit → Action (Board δ) Flow} {b : Board δ}
    (hperform : perform i b = (storeBytes b.cpu.index bytes >>= next) b)
    (hnext : ∀ u, Action.Keeps (fun b : Board δ => b.memory) (next u))
    (hregisters : Place.registers ∉ Place.pc :: i.mnemonic.writes) :
    Stored b (bytes.take (Memory.size - b.cpu.index.toNat)) (execute i b).state where
  array_eq := by
    rw [part_execute (fun b => b.memory.array) (fun _ _ => rfl), hperform,
      congrArg Memory.array (Action.Keeps.part_bind _ hnext b), array_storeBytes, Bytes.put_take]
  loadAddress_eq :=
    (part_execute (fun b => b.memory.loadAddress) (fun _ _ => rfl) i b).trans
      (keeps_loadAddress i b)
  registers_eq := writes_execute i b _ hregisters

lemma stored_of_store (hi : i.mnemonic = .store) (b : Board δ) :
    Stored b (b.cpu.registers.toList.take
      (min ((i.register 0).val + 1) (Memory.size - b.cpu.index.toNat))) (execute i b).state := by
  have hperform : perform i b = (storeBytes b.cpu.index ((registersUpTo (i.register 0)).map b.cpu.v)
      >>= fun _ => update fun c =>
        { c with index := c.index + UInt16.ofNat (i.register 0).val }) b := by
    simp only [perform, hi, Action.get_bind]
  have hstored := stored_execute hperform (fun _ _ => rfl) (by rw [hi]; decide)
  rwa [map_registersUpTo, List.take_take, Nat.min_comm] at hstored

lemma stored_of_digits (hi : i.mnemonic = .digits) (b : Board δ) :
    Stored b ((decimalDigits (b.cpu.v (i.register 0))).take
      (min 3 (Memory.size - b.cpu.index.toNat))) (execute i b).state := by
  have hperform : perform i b = (storeBytes b.cpu.index (decimalDigits (b.cpu.v (i.register 0)))
      >>= fun _ => pure Flow.next) b := by
    simp only [perform, hi, Action.get_bind]
  have hstored := stored_execute hperform (fun _ => .pure _) (by rw [hi]; decide)
  rwa [List.take_eq_take_min, Nat.min_comm] at hstored

lemma loaded_of_load (hi : i.mnemonic = .load) (b : Board δ) :
    Loaded b (min ((i.register 0).val + 1) (Memory.size - b.cpu.index.toNat))
      (execute i b).state := by
  have hv (r : Register) : (execute i b).state.cpu.v r =
      (loadRegisters b.cpu.index (registersUpTo (i.register 0)) b).state.cpu.v r := by
    rw [part_execute (fun b => b.cpu.v r) (fun _ _ => rfl)]
    simp only [perform, hi, Action.get_bind]
    have hnext (step : UInt16) : Action.Keeps (fun b : Board δ => b.cpu.v r)
        (update fun c => { c with index := c.index + step }) := fun _ => rfl
    exact Action.Keeps.part_bind _ (fun _ => hnext _) b
  have hlength := length_registersUpTo (i.register 0)
  refine ⟨fun r hr => ?_, fun r hr => ?_, writes_execute i b .memory (by rw [hi]; decide)⟩
  · have hin : b.cpu.index.toNat + r.val < Memory.size := by omega
    have hload := v_loadRegisters (nodup_registersUpTo (i.register 0)) b.cpu.index b r.val
      (by omega)
    rw [getElem_registersUpTo, ← hv, Vector.getElem?_eq_getElem hin, Option.getD_some] at hload
    rw [Vector.getElem?_eq_getElem hin, hload]
  · rw [hv]
    by_cases hx : r.val < (i.register 0).val + 1
    · -- the register is asked for, but memory has come to its end
      have hload := v_loadRegisters (nodup_registersUpTo (i.register 0)) b.cpu.index b r.val
        (by omega)
      rw [getElem_registersUpTo, Vector.getElem?_eq_none (by omega), Option.getD_none] at hload
      exact hload
    · have hother : r ∉ registersUpTo (i.register 0) := by
        rw [mem_registersUpTo, Fin.le_def]
        omega
      exact keeps_register_loadRegisters hother b.cpu.index b

omit [Devices δ] in
/-- After a loop that leaves the index alone, the index is moved once. -/
lemma index_of_bind {x : Action (Board δ) Unit} {step : UInt16} {b b' : Board δ} {flow : Flow}
    {ns : List Notice} (hx : Action.Keeps (fun b : Board δ => b.cpu.index) x)
    (h : (x >>= fun _ => update fun c => { c with index := c.index + step }) b =
      ⟨b', .ok flow, ns⟩) : b'.cpu.index = b.cpu.index + step := by
  obtain ⟨b₁, u, _, _, hloop, hlast, -⟩ := Action.bind_eq_ok h
  have hindex := hx b
  rw [hloop] at hindex
  cases hlast
  exact congrArg (· + step) hindex

/-- Storing or loading a block moves the index on by the number of its last register. -/
lemma index_execute {b : Board δ} (hi : i.mnemonic = .store ∨ i.mnemonic = .load)
    (h : (execute i b).result = .ok ()) :
    (execute i b).state.cpu.index = b.cpu.index + UInt16.ofNat (i.register 0).val := by
  have hkeep {x : Action (Board δ) Unit} {places : List Place} (hx : Writes places x)
      (hp : Place.index ∉ places) : Action.Keeps (fun b : Board δ => b.cpu.index) x :=
    fun b => hx b _ hp
  rw [part_execute (fun b => b.cpu.index) (fun _ _ => rfl)]
  rw [result_execute] at h
  rcases hperform : perform i b with ⟨b', fault | flow, ns⟩
  · rw [hperform] at h
    cases h
  rcases hi with hi | hi <;> simp only [perform, hi, Action.get_bind] at hperform
  · exact index_of_bind (hkeep (writes_storeBytes _ _) (by decide)) hperform
  · exact index_of_bind (hkeep (writes_loadRegisters _ _) (by decide)) hperform

/-- **Bytes between registers and memory.** Of the bytes that an instruction is to carry, as many as
lie in memory from the index on are carried, in their order, and no others. What is stored are the
first registers, or the digits of one; what is loaded are the first registers. If these are all the
bytes, the instruction succeeds, and only then: it moves the program counter on, and, if it carries
a block of registers, the index by the number of the last one, which is one less than there are
bytes. Otherwise both stay where they are. Nothing else changes.

**Proof sketch.** The loops carry one byte after the other, and their addresses do not wrap, as they
end at the first byte that lies outside. -/
theorem execute_transfer (hi : i.mnemonic ∈ [.store, .load, .digits]) (b : Board δ) :
    let x := i.register 0
    let start := b.cpu.index.toNat
    let need := if i.mnemonic = .digits then 3 else x.val + 1
    let m := min need (Memory.size - start)
    let b' := (execute i b).state
    (i.mnemonic = .store → Stored b (b.cpu.registers.toList.take m) b') ∧
    (i.mnemonic = .digits → ∃ h t u : UInt8, h ≤ 9 ∧ t ≤ 9 ∧ u ≤ 9 ∧
      100 * h.toNat + 10 * t.toNat + u.toNat = (b.cpu.v x).toNat ∧
        Stored b ([h, t, u].take m) b') ∧
    (i.mnemonic = .load → Loaded b m b') ∧
    ((execute i b).result = .ok () ↔ m = need) ∧
    (m = need → b'.cpu.pc = b.cpu.pc + instructionSize ∧
      b'.cpu.index.toNat = if i.mnemonic = .digits then start else start + x.val) ∧
    (m ≠ need → b'.cpu.pc = b.cpu.pc ∧ b'.cpu.index = b.cpu.index) ∧
    ∀ p ∈ [Place.delay, .sound, .stack, .devices], p.Same b b' := by
  intro x start need m b'
  have hcases : i.mnemonic = .store ∨ i.mnemonic = .load ∨ i.mnemonic = .digits := by simpa using hi
  have hneed : i.reach = need := by
    rcases hcases with h | h | h <;> simp [Instruction.reach, need, x, h]
  have hpos : 0 < need := by
    simp only [need]
    split <;> omega
  have hresult : (execute i b).result = .ok () ↔ m = need := by
    rw [result_execute_of_ne (by rcases hcases with h | h | h <;> simp [h])
      (by rcases hcases with h | h | h <;> simp [h]), Memory.walk_eq_ok, hneed]
    simp only [m, start]
    omega
  refine ⟨fun h => ?_, fun h => ?_, fun h => ?_, hresult, fun hm => ⟨?_, ?_⟩, fun hm => ?_, ?_⟩
  · have hblock : need = x.val + 1 := by simp [need, h]
    simp only [m, hblock]
    exact stored_of_store h b
  · obtain ⟨hundreds, tens, units, hdigits, hh, ht, hu, hsum⟩ := digits_decimalDigits (b.cpu.v x)
    have hstored := stored_of_digits h b
    rw [hdigits] at hstored
    have hthree : need = 3 := by simp [need, h]
    simp only [m, hthree]
    exact ⟨hundreds, tens, units, hh, ht, hu, hsum, hstored⟩
  · have hblock : need = x.val + 1 := by simp [need, h]
    simp only [m, hblock]
    exact loaded_of_load h b
  · exact pc_execute (by rcases hcases with h | h | h <;> rw [h] <;> rfl) (hresult.mpr hm)
  · by_cases h : i.mnemonic = .digits
    · have hindex : Place.index.Same b b' := writes_execute i b _ (by rw [h]; decide)
      rw [if_pos h]
      exact congrArg UInt16.toNat hindex
    · have hindex := index_execute (by tauto) (hresult.mpr hm)
      have hx := x.isLt
      have hend : start + x.val < Memory.size := by
        simp only [m, need, if_neg h] at hm
        omega
      unfold Memory.size at hend
      rw [if_neg h, hindex, UInt16.toNat_add, UInt16.toNat_ofNat']
      omega
  · obtain ⟨fault, hfault⟩ : ∃ fault, (execute i b).result = .error fault := by
      rcases hr : (execute i b).result with fault | u
      · exact ⟨fault, rfl⟩
      · exact absurd (hresult.mp hr) hm
    exact ⟨same_of_error hfault (p := .pc) (by decide),
      same_of_error hfault (p := .index) (by decide)⟩
  · intro p hp
    apply writes_execute i b p
    revert p
    rcases hcases with h | h | h <;> rw [h] <;> decide

/-- Two of the three digits of 123 find room at the end of memory. -/
theorem execute_transfer_at_end :
    let devices : Panel Frame Switches Silent Replay := ⟨.standard, .none, ⟨⟩, .ofList []⟩
    let b : Board _ := ⟨{ Cpu.powerOn.setV 7 123 with index := 4094 }, .powerOn, devices⟩
    let i : Instruction := ⟨.digits, 0xf733, [7]⟩
    i.mnemonic ∈ [.store, .load, .digits] ∧ (execute i b).result ≠ .ok () ∧
      (execute i b).state.memory.array ⟨4094, by decide⟩ = 1 ∧
      (execute i b).state.memory.array ⟨4095, by decide⟩ = 2 := by
  intro devices b i
  have hi : i.mnemonic ∈ [.store, .load, .digits] := by decide
  obtain ⟨-, hdigits, -, hresult, -⟩ := execute_transfer hi b
  obtain ⟨h, t, u, hh, ht, hu, hsum, hstored⟩ := hdigits rfl
  have hvalue : (b.cpu.v (i.register 0)).toNat = 123 := by decide
  rw [hvalue] at hsum
  rw [UInt8.le_iff_toNat_le] at hh ht hu
  have hnine : (9 : UInt8).toNat = 9 := rfl
  obtain rfl : h = 1 := UInt8.toNat_inj.mp (by change h.toNat = 1; omega)
  obtain rfl : t = 2 := UInt8.toNat_inj.mp (by change t.toNat = 2; omega)
  refine ⟨hi, fun hok => absurd (hresult.mp hok) (by decide), ?_, ?_⟩
  · rw [hstored.array_eq]
    rfl
  · rw [hstored.array_eq]
    rfl

end Devices

end Board

end Chip8
