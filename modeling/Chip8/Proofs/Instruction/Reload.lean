import Chip8.Proofs.Instruction.Transfer

set_option autoImplicit false
set_option relaxedAutoImplicit false

/-!
# Registers that are stored and loaded again

A block of registers is stored, and later a block is loaded from the same place. The two blocks
begin with the same register but need not end with the same one: what both have in common comes
back, and what only the second has is read from what was in memory before.

## Main results

* `Chip8.Board.Stored.array_inside`, `Chip8.Board.Stored.array_outside` — memory after bytes have
  been stored, byte by byte.
* `Chip8.Board.Loaded.v_eq` — a register that has been loaded.
* `Chip8.Board.load_after_store` — both instructions together.
-/

namespace Chip8.Board

variable {δ : Type} {b b' : Board δ}

/-! ## One byte and one register -/

/-- The byte at the place of one that has been stored. -/
lemma Stored.array_inside {bytes : List UInt8} (h : Stored b bytes b') {n : Nat}
    (hn : n < bytes.length) (hin : b.cpu.index.toNat + n < Memory.size) :
    b'.memory.array ⟨b.cpu.index.toNat + n, hin⟩ = bytes[n] := by
  have hplace : b.cpu.index.toNat ≤ b.cpu.index.toNat + n ∧
      b.cpu.index.toNat + n < b.cpu.index.toNat + bytes.length := by omega
  have hoffset : b.cpu.index.toNat + n - b.cpu.index.toNat = n := by omega
  rw [h.array_eq, Bytes.put, dif_pos hplace]
  simp only [hoffset]

/-- Where nothing has been stored, memory is as before. -/
lemma Stored.array_outside {bytes : List UInt8} (h : Stored b bytes b') {k : Fin Memory.size}
    (hk : k.val < b.cpu.index.toNat ∨ b.cpu.index.toNat + bytes.length ≤ k.val) :
    b'.memory.array k = b.memory.array k := by
  rw [h.array_eq, Bytes.put, dif_neg (by omega)]

/-- A register that has been loaded holds the byte at its place. -/
lemma Loaded.v_eq {count : Nat} (h : Loaded b count b') {r : Register} (hr : r.val < count)
    (hin : b.cpu.index.toNat + r.val < Memory.size) :
    b'.cpu.v r = b.memory.array ⟨b.cpu.index.toNat + r.val, hin⟩ := by
  have hbyte := h.loaded r hr
  rw [Vector.getElem?_eq_getElem hin] at hbyte
  exact (Option.some.inj hbyte).symm

/-! ## A block that fits -/

variable [Devices δ] {i j : Instruction}

/-- A block of registers that fits into memory is stored or loaded as a whole. -/
lemma result_of_block (hi : i.mnemonic = .store ∨ i.mnemonic = .load)
    (hroom : b.cpu.index.toNat + (i.register 0).val < Memory.size) :
    (execute i b).result = .ok () := by
  have hreach : i.reach = (i.register 0).val + 1 := by
    rcases hi with hi | hi <;> rw [Instruction.reach, hi]
  have hret : i.mnemonic ≠ .ret := by rcases hi with hi | hi <;> rw [hi] <;> decide
  have hcall : i.mnemonic ≠ .call := by rcases hi with hi | hi <;> rw [hi] <;> decide
  rw [result_execute_of_ne hret hcall, Memory.walk_eq_ok, hreach]
  exact .inr hroom

/-- Storing a block that fits puts its registers into memory. -/
lemma stored_block (hi : i.mnemonic = .store)
    (hroom : b.cpu.index.toNat + (i.register 0).val < Memory.size) :
    Stored b (b.cpu.registers.toList.take ((i.register 0).val + 1)) (execute i b).state := by
  have hstored := stored_of_store hi b
  rwa [Nat.min_eq_left (by omega)] at hstored

/-- Loading a block that fits gets its registers from memory. -/
lemma loaded_block (hj : j.mnemonic = .load)
    (hroom : b.cpu.index.toNat + (j.register 0).val < Memory.size) :
    Loaded b ((j.register 0).val + 1) (execute j b).state := by
  have hloaded := loaded_of_load hj b
  rwa [Nat.min_eq_left (by omega)] at hloaded

/-- **Registers that are stored come back when they are loaded**, if the index has been put back in
between and nothing has been written to memory; the registers, and everything else, may have
changed. Both blocks have to fit into memory, and then both instructions succeed. The registers that
belong to both blocks hold what they held when they were stored. Those that belong to the second
block only hold what was in memory at their places before, and those behind it are left alone. The
index is moved on by the number of the last register that is loaded. Outside of the first block
memory is what it was before.

**Proof sketch.** The place of a register is as far behind the index as its number says, in both
blocks. It was written if the register belongs to the first block, and otherwise not. -/
theorem load_after_store (hi : i.mnemonic = .store) (hj : j.mnemonic = .load)
    (hroom : b.cpu.index.toNat + max (i.register 0).val (j.register 0).val + 1 ≤ Memory.size)
    (hmemory : b'.memory = (execute i b).state.memory) (hindex : b'.cpu.index = b.cpu.index) :
    let x := (i.register 0).val
    let y := (j.register 0).val
    let start := b.cpu.index.toNat
    let after := (execute j b').state
    (execute i b).result = .ok () ∧ (execute j b').result = .ok () ∧
      (∀ r : Register, r.val ≤ min x y → after.cpu.v r = b.cpu.v r) ∧
      (∀ r : Register, x < r.val → r.val ≤ y →
        ∃ place : Fin Memory.size, place.val = start + r.val ∧
          after.cpu.v r = b.memory.array place) ∧
      (∀ r : Register, y < r.val → after.cpu.v r = b'.cpu.v r) ∧
      after.cpu.index.toNat = start + y ∧
      ∀ place : Fin Memory.size, place.val < start ∨ start + x < place.val →
        after.memory.array place = b.memory.array place := by
  intro x y start after
  have hx : start + x < Memory.size := by omega
  have hy : start + y < Memory.size := by omega
  have hy' : b'.cpu.index.toNat + y < Memory.size := by rwa [hindex]
  have hstored := stored_block hi hx
  have hloaded := loaded_block hj hy'
  have hresult := result_of_block (.inr hj) hy'
  have hlength : (b.cpu.registers.toList.take (x + 1)).length = x + 1 := by
    have hlt := (i.register 0).isLt
    rw [List.length_take, Vector.length_toList]
    omega
  -- what is loaded is read from the memory that the first instruction has left
  have hread (r : Register) (hr : r.val ≤ y) (hin : start + r.val < Memory.size) :
      after.cpu.v r = (execute i b).state.memory.array ⟨start + r.val, hin⟩ := by
    have hplace : b'.cpu.index.toNat + r.val < Memory.size := by rwa [hindex]
    rw [hloaded.v_eq (Nat.lt_succ_of_le hr) hplace, hmemory]
    simp only [hindex, start]
  refine ⟨result_of_block (.inl hi) hx, hresult, fun r hr => ?_, fun r hxr hr => ?_, fun r hr => ?_,
    ?_, fun place hplace => ?_⟩
  · have hin : r.val < (b.cpu.registers.toList.take (x + 1)).length := by omega
    rw [hread r (by omega) (by omega), hstored.array_inside hin]
    simp [Cpu.v, Vector.get]
  · have hin : start + r.val < Memory.size := by omega
    have hbehind : start + (x + 1) ≤ start + r.val := by omega
    refine ⟨⟨start + r.val, hin⟩, rfl, ?_⟩
    rw [hread r hr hin]
    exact hstored.array_outside (.inr (by rwa [hlength]))
  · exact hloaded.others r hr
  · have hlt := (j.register 0).isLt
    unfold Memory.size at hy
    rw [index_execute (.inr hj) hresult, hindex, UInt16.toNat_add, UInt16.toNat_ofNat']
    omega
  · rw [hloaded.memory_eq, hmemory]
    exact hstored.array_outside (by rw [hlength]; omega)

/-- Two registers are stored and four are loaded, at the very end of memory. -/
theorem load_after_store_at_end :
    let devices : Panel Frame Switches Silent Replay := ⟨.standard, .none, ⟨⟩, .ofList []⟩
    let b : Board _ :=
      ⟨{ (Cpu.powerOn.setV 0 7).setV 1 9 with index := 4092 }, .powerOn, devices⟩
    let i : Instruction := ⟨.store, 0xf155, [1]⟩
    let j : Instruction := ⟨.load, 0xf365, [3]⟩
    let b' := (execute i b).state.mapCpu fun c =>
      { c with registers := Vector.replicate 16 0xaa, index := 4092 }
    i.mnemonic = .store ∧ j.mnemonic = .load ∧
      b.cpu.index.toNat + max (i.register 0).val (j.register 0).val + 1 ≤ Memory.size ∧
      b'.memory = (execute i b).state.memory ∧ b'.cpu.index = b.cpu.index ∧
      (execute j b').result = .ok () ∧ (execute j b').state.cpu.v 1 = 9 ∧
      (execute j b').state.cpu.v 2 = 0 ∧ (execute j b').state.cpu.v 4 = 0xaa ∧
      (execute j b').state.cpu.index.toNat = 4095 := by
  intro devices b i j b'
  have hroom : b.cpu.index.toNat + max (i.register 0).val (j.register 0).val + 1 ≤ Memory.size := by
    decide
  have hmemory : b'.memory = (execute i b).state.memory := rfl
  have hback : b'.cpu.index = b.cpu.index := rfl
  obtain ⟨-, hok, hboth, hsecond, hbehind, hindex, -⟩ :=
    load_after_store (j := j) rfl rfl hroom hmemory hback
  obtain ⟨place, hplace, hbyte⟩ := hsecond 2 (by decide) (by decide)
  obtain rfl : place = ⟨4094, by decide⟩ := Fin.ext hplace
  exact ⟨rfl, rfl, hroom, hmemory, hback, hok, hboth 1 (by decide), hbyte.trans (by decide +kernel),
    hbehind 4 (by decide), hindex⟩

end Chip8.Board
