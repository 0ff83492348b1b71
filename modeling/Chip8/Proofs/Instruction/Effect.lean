import Mathlib.Tactic.ByContra
import Chip8.Proofs.Instruction.Failure

set_option autoImplicit false
set_option relaxedAutoImplicit false

/-!
# What an instruction can change

Each part of a board can be changed by a few kinds of instructions only, and some parts of it only
in some places: memory from the index on, and of the registers hardly any but the first operand.
Here this is said part by part, where the table of places says it kind by kind, and for devices
that lie side by side.

## Main definitions

* `Chip8.Instruction.MayStore` — the addresses at which an instruction may store bytes.
* `Chip8.Instruction.MaySet` — the registers that an instruction may set.
* `Chip8.Board.Effect` — what an instruction can change, part by part.

## Main results

* `Chip8.Board.getElem?_bytes_perform` — bytes at other addresses stay.
* `Chip8.Board.keeps_register` — other registers keep their values.
* `Chip8.Board.effect_execute` — all parts together.
-/

namespace Chip8

/-! ## Addresses and registers -/

namespace Instruction

/-- The instruction may store a byte at the address `k`: one of three digits, or one of the
registers up to the first operand. -/
def MayStore (i : Instruction) (index : UInt16) (k : Nat) : Prop :=
  index.toNat ≤ k ∧
    (i.mnemonic = .digits ∧ k ≤ index.toNat + 2 ∨
      i.mnemonic = .store ∧ k ≤ index.toNat + (i.register 0).val)

/-- The instruction may set a register: the first operand, the flag register if it has a carry, a
comparison, a bit or a collision to tell, and one up to the first operand if it loads them all. -/
def MaySet (i : Instruction) (r : Register) : Prop :=
  r = i.register 0 ∨
    r = Cpu.flagRegister ∧
      i.mnemonic ∈ [.add, .sub, .subFrom, .shiftRight, .shiftLeft, .draw] ∨
    i.mnemonic = .load ∧ r ≤ i.register 0

end Instruction

namespace Board

variable {δ τ α : Type}

/-! ## Bytes -/

/-- A byte that is written is one byte of memory, or none. -/
lemma keeps_storeByte (part : Memory → τ) {address : UInt16} {value : UInt8}
    (h : ∀ (m : Memory) (hk : address.toNat < Memory.size),
      part { m with bytes := m.bytes.set address.toNat value } = part m) :
    Action.Keeps (fun b : Board δ => part b.memory) (storeByte address value) := by
  intro b
  rw [storeByte, Action.attempt]
  rcases Nat.lt_or_ge address.toNat Memory.size with hk | hk
  · rw [b.memory.setByte_of_lt hk]
    exact h b.memory hk
  · rw [b.memory.setByte_of_le hk]
    rfl

/-- Bytes that are written one after the other lie side by side: where memory ends, so do they, and
none is written at a low address instead. -/
lemma keeps_storeBytes (part : Memory → τ) (address : UInt16) (bytes : List UInt8)
    (h : ∀ (m : Memory) (k : Nat) (value : UInt8) (hk : k < Memory.size),
      address.toNat ≤ k → k < address.toNat + bytes.length →
        part { m with bytes := m.bytes.set k value } = part m) :
    Action.Keeps (fun b : Board δ => part b.memory) (storeBytes address bytes) := by
  induction bytes generalizing address with
  | nil => exact .pure ()
  | cons byte rest ih =>
    rw [List.length_cons] at h
    have hfirst : Action.Keeps (fun b : Board δ => part b.memory) (storeByte address byte) :=
      keeps_storeByte part fun m hk => h m address.toNat byte hk (by omega) (by omega)
    intro b
    rw [storeBytes]
    by_cases hin : address.toNat < Memory.size
    · have hnext := Memory.toNat_add_one hin
      have hrest := ih (address + 1) fun m k value hk hle hlt =>
        h m k value hk (by omega) (by omega)
      exact Action.Keeps.bind hfirst (fun _ => hrest) b
    · have hfail : storeByte address byte b = ⟨b, .error (.outOfRange address.toNat 1), []⟩ := by
        rw [storeByte, Action.attempt, b.memory.setByte_of_le (Nat.le_of_not_lt hin)]
        rfl
      rw [Action.bind_of_error hfail]

lemma keeps_byte_storeBytes {address : UInt16} {bytes : List UInt8} {k : Nat}
    (h : address.toNat ≤ k → address.toNat + bytes.length ≤ k) :
    Action.Keeps (fun b : Board δ => b.memory.bytes[k]?) (storeBytes address bytes) := by
  apply keeps_storeBytes fun m => m.bytes[k]?
  intro m j value hj hle hlt
  have hne : j ≠ k := by omega
  exact Vector.getElem?_set_ne hj hne

/-! ## Registers -/

lemma mem_registersUpTo {r x : Register} : r ∈ registersUpTo x ↔ r ≤ x := by
  simp [registersUpTo]

section Registers

variable {r x : Register}

lemma v_setV_of_ne (h : r ≠ x) (c : Cpu) (value : UInt8) : (c.setV x value).v r = c.v r := by
  rw [Cpu.v_setV, if_neg h.symm]

lemma keeps_register_setV (h : r ≠ x) (value : Cpu → UInt8) :
    Action.Keeps (fun b : Board δ => b.cpu.v r) (update fun c => c.setV x (value c)) :=
  fun b => v_setV_of_ne h b.cpu _

lemma keeps_register_updateFlagged (h : r ≠ x) (hflag : r ≠ Cpu.flagRegister)
    (f : Cpu → Bool × UInt8) :
    Action.Keeps (fun b : Board δ => b.cpu.v r) (updateFlagged x f) :=
  fun b => (v_setV_of_ne h _ _).trans (v_setV_of_ne hflag b.cpu _)

lemma keeps_register_loadRegisters {rs : List Register} (h : r ∉ rs) (address : UInt16) :
    Action.Keeps (fun b : Board δ => b.cpu.v r) (loadRegisters address rs) := by
  induction rs generalizing address with
  | nil => exact .pure ()
  | cons q rest ih =>
    rw [List.mem_cons, not_or] at h
    refine .bind (.query _) fun value => .bind (.modify fun b => ?_) fun _ => ih h.2 _
    exact v_setV_of_ne h.1 b.cpu value

variable [Devices δ]

lemma keeps_register_drawRows (hflag : r ≠ Cpu.flagRegister) (left top : Nat)
    (address : UInt16) (count : Nat) :
    Action.Keeps (fun b : Board δ => b.cpu.v r) (drawRows left top address count) := by
  induction count generalizing top address with
  | zero => exact .pure ()
  | succ count ih =>
    refine .bind (.query _) fun line => .bind (.modify fun b => ?_) fun _ => ih _ _
    dsimp only
    split
    · exact v_setV_of_ne hflag b.cpu _
    · rfl

lemma keeps_register_drawSprite (hflag : r ≠ Cpu.flagRegister) (x y : Register) (count : Nat) :
    Action.Keeps (fun b : Board δ => b.cpu.v r) (drawSprite x y count) := by
  refine .bind .get fun b => .bind (.modify fun b => ?_) fun _ => ?_
  · exact v_setV_of_ne hflag b.cpu _
  · exact .bind (keeps_register_drawRows hflag _ _ _ _) fun _ => .pure _

lemma keeps_register_awaitKey (h : r ≠ x) :
    Action.Keeps (fun b : Board δ => b.cpu.v r) (awaitKey x) := by
  intro b
  rw [awaitKey]
  rcases Keypad.takePressed b.devices with ⟨_ | key, d⟩
  · rfl
  · exact v_setV_of_ne h b.cpu _

/-- **An instruction sets no other registers** than those that it may set. -/
lemma keeps_register {i : Instruction} (h : ¬ i.MaySet r) :
    Action.Keeps (fun b : Board δ => b.cpu.v r) (perform i) := by
  have hframe : Place.registers ∉ i.mnemonic.writes →
      Action.Keeps (fun b : Board δ => b.cpu.v r) (perform i) :=
    fun hp b => congrArg (·.get r) (writes_perform i b _ hp)
  simp only [Instruction.MaySet, not_or, not_and] at h
  obtain ⟨hfirst, hflag, hload⟩ := h
  unfold perform at hframe ⊢
  revert hframe hflag hload
  cases i.mnemonic with
  | setByte | addByte | copy | or | and | xor | getDelay =>
    exact fun _ _ _ => keeps_register_setV hfirst _
  | add | sub | subFrom | shiftRight | shiftLeft =>
    intro _ hflag _
    exact keeps_register_updateFlagged hfirst (fun hr => hflag hr (by decide)) _
  | random => exact fun _ _ _ b => v_setV_of_ne hfirst b.cpu _
  | draw =>
    intro _ hflag _
    exact keeps_register_drawSprite (fun hr => hflag hr (by decide)) _ _ _
  | waitKey => exact fun _ _ _ => keeps_register_awaitKey hfirst
  | load =>
    intro _ _ hload
    have hother : r ∉ registersUpTo (i.register 0) := fun hr => hload rfl (mem_registersUpTo.mp hr)
    refine .bind .get fun b => .bind (keeps_register_loadRegisters hother _) fun _ => ?_
    exact fun _ => rfl
  | _ => exact fun hframe _ _ => hframe (by simp [Mnemonic.writes])

end Registers

/-! ## Memory -/

variable [Devices δ]

/-- **An instruction stores no bytes at other addresses** than those at which it may. -/
lemma getElem?_bytes_perform {i : Instruction} {b : Board δ} {k : Nat}
    (h : ¬ i.MayStore b.cpu.index k) :
    (perform i b).state.memory.bytes[k]? = b.memory.bytes[k]? := by
  simp only [Instruction.MayStore, not_and, not_or] at h
  cases hi : i.mnemonic with
  | digits =>
    let digits := decimalDigits (b.cpu.v (i.register 0))
    have hlength : digits.length = 3 := rfl
    have hbytes : Action.Keeps (fun b : Board δ => b.memory.bytes[k]?)
        (storeBytes b.cpu.index digits) := by
      refine keeps_byte_storeBytes fun hle => ?_
      have hout := (h hle).1 hi
      omega
    simp only [perform, hi, Action.get_bind]
    exact Action.Keeps.bind hbytes (fun _ => .pure Flow.next) b
  | store =>
    let values := (registersUpTo (i.register 0)).map b.cpu.v
    have hlength : values.length = (i.register 0).val + 1 := by
      rw [List.length_map, length_registersUpTo]
    have hbytes : Action.Keeps (fun b : Board δ => b.memory.bytes[k]?)
        (storeBytes b.cpu.index values) := by
      refine keeps_byte_storeBytes fun hle => ?_
      have hout := (h hle).2 hi
      omega
    simp only [perform, hi, Action.get_bind]
    exact Action.Keeps.bind hbytes (fun _ _ => rfl) b
  | _ =>
    have hsame : Place.memory.Same b (perform i b).state :=
      writes_perform i b .memory (by rw [hi]; decide)
    exact congrArg (fun m : Memory => m.bytes[k]?) hsame

/-- No instruction changes where a program is put. -/
lemma keeps_loadAddress (i : Instruction) :
    Action.Keeps (fun b : Board δ => b.memory.loadAddress) (perform i) := by
  have hbytes (address : UInt16) (bytes : List UInt8) :
      Action.Keeps (fun b : Board δ => b.memory.loadAddress) (storeBytes address bytes) :=
    keeps_storeBytes Memory.loadAddress address bytes fun _ _ _ _ _ _ => rfl
  cases hi : i.mnemonic with
  | digits =>
    simp only [perform, hi]
    exact .bind .get fun b => .bind (hbytes _ _) fun _ => .pure _
  | store =>
    simp only [perform, hi]
    exact .bind .get fun b => .bind (hbytes _ _) fun _ _ => rfl
  | _ =>
    intro b
    have hsame : Place.memory.Same b (perform i b).state :=
      writes_perform i b .memory (by rw [hi]; decide)
    exact congrArg Memory.loadAddress hsame

/-! ## Devices -/

/-- A part of the devices that is spared is left alone by the whole instruction. -/
lemma part_execute_of_spares {part : δ → τ} {i : Instruction} (h : i.mnemonic.Spares part)
    (b : Board δ) : part (execute i b).state.devices = part b.devices :=
  (part_execute (fun b => part b.devices) (fun _ _ => rfl) i b).trans (spares_perform h b)

/-- A place that an instruction changes is one that its kind writes, so that few kinds come into
question. -/
lemma mnemonic_of_changed {i : Instruction} {b : Board δ} {p : Place} {kinds : List Mnemonic}
    (hkinds : ∀ m ∈ Mnemonic.all, p ∈ .pc :: m.writes → m ∈ kinds)
    (h : ¬ p.Same b (execute i b).state) : i.mnemonic ∈ kinds := by
  apply hkinds i.mnemonic i.mnemonic.mem_all
  by_contra hmem
  exact h (writes_execute i b p hmem)

end Board

namespace Panel

variable {D K S R : Type} [Display D] [Keypad K] [Speaker S] [RandomSource R] {m : Mnemonic}

lemma spares_display (h : m ∉ [.cls, .draw]) :
    m.Spares (Panel.display : Panel D K S R → D) := by
  cases m with
  | cls | draw => simp at h
  | waitKey | random => exact fun _ => rfl
  | _ => trivial

lemma spares_keypad (h : m ≠ .waitKey) : m.Spares (Panel.keypad : Panel D K S R → K) := by
  cases m with
  | waitKey => exact absurd rfl h
  | cls | random => exact fun _ => rfl
  | draw => exact fun _ _ _ _ => rfl
  | _ => trivial

lemma spares_speaker (m : Mnemonic) : m.Spares (Panel.speaker : Panel D K S R → S) := by
  cases m with
  | cls | waitKey | random => exact fun _ => rfl
  | draw => exact fun _ _ _ _ => rfl
  | _ => trivial

lemma spares_random (h : m ≠ .random) : m.Spares (Panel.random : Panel D K S R → R) := by
  cases m with
  | random => exact absurd rfl h
  | cls | waitKey => exact fun _ => rfl
  | draw => exact fun _ _ _ _ => rfl
  | _ => trivial

end Panel

/-! ## All parts together -/

namespace Board

variable {D K S R : Type}

/-- What an instruction can change, part by part, and what it does with the source of random
bytes. -/
structure Effect [RandomSource R] (i : Instruction) (b b' : Board (Panel D K S R)) : Prop where
  /-- Bytes are stored by two kinds of instructions, from the index on. -/
  memory : ∀ k, b'.memory.bytes[k]? ≠ b.memory.bytes[k]? → i.MayStore b.cpu.index k
  /-- Where programs are put is not for a program to change. -/
  loadAddress : b'.memory.loadAddress = b.memory.loadAddress
  /-- The picture is changed by clearing it and by drawing. -/
  display : b'.devices.display ≠ b.devices.display → i.mnemonic ∈ [.cls, .draw]
  /-- A pending key press is taken only by the instruction that waits for one. -/
  keypad : b'.devices.keypad ≠ b.devices.keypad → i.mnemonic = .waitKey
  /-- No instruction turns to the speaker. -/
  speaker : b'.devices.speaker = b.devices.speaker
  /-- One random byte is drawn by the instruction that is there for it, and none by any other. -/
  random : b'.devices.random =
    if i.mnemonic = .random then (RandomSource.nextByte b.devices.random).2 else b.devices.random
  /-- The random byte goes, masked, to the register that is named first. -/
  sample : i.mnemonic = .random →
    b'.cpu.v (i.register 0) =
      (RandomSource.nextByte b.devices.random).1 &&& (i.operand 1).toUInt8
  /-- The call stack is changed by calls and returns. -/
  stack : b'.cpu.stack ≠ b.cpu.stack → i.mnemonic ∈ [.call, .ret]
  delay : b'.cpu.delay ≠ b.cpu.delay → i.mnemonic = .setDelay
  sound : b'.cpu.sound ≠ b.cpu.sound → i.mnemonic = .setSound
  index : b'.cpu.index ≠ b.cpu.index →
    i.mnemonic ∈ [.setIndex, .addIndex, .glyph, .store, .load]
  registers : ∀ r, b'.cpu.v r ≠ b.cpu.v r → i.MaySet r

variable [Display D] [Keypad K] [Speaker S] [RandomSource R]

lemma execute_random {i : Instruction} (hi : i.mnemonic = .random) (b : Board (Panel D K S R)) :
    (execute i b).state.devices.random = (RandomSource.nextByte b.devices.random).2 ∧
      (execute i b).state.cpu.v (i.register 0) =
        (RandomSource.nextByte b.devices.random).1 &&& (i.operand 1).toUInt8 := by
  have hdevices := part_execute (fun b => b.devices.random) (fun _ _ => rfl) i b
  have hregister := part_execute (fun b => b.cpu.v (i.register 0)) (fun _ _ => rfl) i b
  simp only [perform, hi] at hdevices hregister
  refine ⟨hdevices, hregister.trans ?_⟩
  simp only [randomInto, Cpu.v_setV, if_true]
  rfl

/-- **What an instruction can change**, whatever table it comes from, whatever its operands are and
whether it succeeds or fails.

**Proof sketch.** A part that is a place of the board is written only by the kinds that the table of
places has for it. The others need a look at the loops: bytes that are stored lie side by side, and
registers that are loaded are among those asked for. -/
theorem effect_execute (i : Instruction) (b : Board (Panel D K S R)) :
    Effect i b (execute i b).state where
  memory k hk := by
    by_contra hstore
    apply hk
    rw [part_execute (fun b => b.memory.bytes[k]?) (fun _ _ => rfl) i b]
    exact getElem?_bytes_perform hstore
  loadAddress :=
    (part_execute (fun b => b.memory.loadAddress) (fun _ _ => rfl) i b).trans
      (keeps_loadAddress i b)
  display hd := by
    by_contra hi
    exact hd (part_execute_of_spares (Panel.spares_display hi) b)
  keypad hk := by
    by_contra hi
    exact hk (part_execute_of_spares (Panel.spares_keypad hi) b)
  speaker := part_execute_of_spares (Panel.spares_speaker _) b
  random := by
    split
    · rename_i hi
      exact (execute_random hi b).1
    · rename_i hi
      exact part_execute_of_spares (Panel.spares_random hi) b
  sample hi := (execute_random hi b).2
  stack hs := mnemonic_of_changed (p := .stack) (by decide) hs
  delay hd := by
    have hmem : i.mnemonic ∈ [.setDelay] := mnemonic_of_changed (p := .delay) (by decide) hd
    exact List.mem_singleton.mp hmem
  sound hs := by
    have hmem : i.mnemonic ∈ [.setSound] := mnemonic_of_changed (p := .sound) (by decide) hs
    exact List.mem_singleton.mp hmem
  index hx := mnemonic_of_changed (p := .index) (by decide) hx
  registers r hr := by
    by_contra hset
    apply hr
    rw [part_execute (fun b => b.cpu.v r) (fun _ _ => rfl) i b]
    exact keeps_register hset b

end Board

end Chip8
