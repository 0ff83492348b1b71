import Chip8.Machine.Execute
import Chip8.Proofs.Devices.Recorder

set_option autoImplicit false
set_option relaxedAutoImplicit false

/-!
# What an instruction does not look at

An instruction knows the devices by their answers alone, and calls and returns apart it knows
nothing of the call stack. So it does the same on a board with any other call stack, and with
devices that do the same through some function.

## Main definitions

* `Chip8.Cpu.Stackless` — a change of the processor in which the call stack plays no part.
* `Chip8.Board.through` — a board with its call stack and its devices seen through functions.

## Main results

* `Chip8.Board.through_perform` — an instruction that neither calls nor returns does the same on a
  board that is seen through functions.
-/

namespace Chip8

open Chip8.Action (Commutes)

variable {δ ε : Type}

/-- In this change of the processor the call stack plays no part. -/
def Cpu.Stackless (g : Cpu → Cpu) : Prop :=
  ∀ c stack, g { c with stack := stack } = { g c with stack := stack }

lemma Cpu.Stackless.stack_eq {g : Cpu → Cpu} (hg : Stackless g) (c : Cpu) :
    (g c).stack = c.stack := by
  have hsame := congrArg Cpu.stack (hg c c.stack)
  exact hsame

namespace Board

/-- The board with its call stack seen through `t` and its devices seen through `f`. -/
def through (t : CallStack → CallStack) (f : δ → ε) (b : Board δ) : Board ε :=
  ⟨{ b.cpu with stack := t b.cpu.stack }, b.memory, f b.devices⟩

variable {t : CallStack → CallStack} {f : δ → ε}

/-! ## Processor and memory -/

lemma mapCpu_through {g : Cpu → Cpu} (hg : Cpu.Stackless g) (b : Board δ) :
    (b.through t f).mapCpu g = (b.mapCpu g).through t f := by
  simp only [mapCpu, through, hg.stack_eq]
  rw [hg b.cpu (t b.cpu.stack)]

lemma through_modifyCpu {g : Cpu → Cpu} (hg : Cpu.Stackless g) :
    Commutes (through t f) (modifyCpu g) (modifyCpu g) :=
  .modify (mapCpu_through hg)

lemma through_update {g : Cpu → Cpu} (hg : Cpu.Stackless g) :
    Commutes (through t f) (update g) (update g) := by
  intro b
  simp only [update, mapCpu_through hg, Outcome.map]

lemma through_jumpTo {target : Cpu → UInt16}
    (h : ∀ c stack, target { c with stack := stack } = target c) :
    Commutes (through t f) (jumpTo target) (jumpTo target) := by
  intro b
  simp only [jumpTo, mapCpu, through, h, Outcome.map]

lemma through_skipIf {p : Board δ → Bool} {q : Board ε → Bool}
    (h : ∀ b, q (b.through t f) = p b) : Commutes (through t f) (skipIf p) (skipIf q) := by
  intro b
  simp only [skipIf, Outcome.map, h]

lemma through_fetchByte (address : UInt16) :
    Commutes (through t f) (fetchByte address) (fetchByte address) :=
  .query fun _ => rfl

lemma through_storeByte (address : UInt16) (value : UInt8) :
    Commutes (through t f) (storeByte address value) (storeByte address value) := by
  intro b
  simp only [storeByte, Action.attempt, through, Outcome.map]
  cases b.memory.setByte address value <;> rfl

lemma through_storeBytes (address : UInt16) (bytes : List UInt8) :
    Commutes (through t f) (storeBytes address bytes) (storeBytes address bytes) := by
  induction bytes generalizing address with
  | nil => exact .pure ()
  | cons b rest ih => exact .bind (through_storeByte address b) fun _ => ih _

/-- An instruction that writes bytes from the index on, and then does something more. -/
lemma through_storeAtIndex {bytes : Board δ → List UInt8} {bytes' : Board ε → List UInt8}
    {x : Action (Board δ) Flow} {y : Action (Board ε) Flow}
    (hbytes : ∀ b, bytes' (b.through t f) = bytes b) (hxy : Commutes (through t f) x y) :
    Commutes (through t f) (do let b ← Action.get; storeBytes b.cpu.index (bytes b); x)
      (do let b ← Action.get; storeBytes b.cpu.index (bytes' b); y) := by
  refine .get_bind fun b => .bind ?_ fun _ => hxy
  rw [hbytes]
  exact through_storeBytes _ _

lemma through_loadRegisters (address : UInt16) (rs : List Register) :
    Commutes (through t f) (loadRegisters address rs) (loadRegisters address rs) := by
  induction rs generalizing address with
  | nil => exact .pure ()
  | cons r rest ih =>
    refine .bind (through_fetchByte address) fun value => ?_
    exact .bind (through_modifyCpu fun _ _ => rfl) fun _ => ih _

/-! ## Devices -/

variable [Devices δ] [Devices ε]

lemma drawRow_map (hf : Devices.IsHom f) (left y : Nat) (line : UInt8) (d : δ) :
    drawRow left y line (f d) = ((drawRow left y line d).1, f (drawRow left y line d).2) := by
  unfold drawRow
  generalize List.range 8 = columns
  generalize false = hit
  induction columns generalizing hit d with
  | nil => rfl
  | cons column columns ih =>
    simp only [List.foldl_cons, hf.draw]
    exact ih _ _

lemma through_drawRows (hf : Devices.IsHom f) (left top : Nat) (address : UInt16) (count : Nat) :
    Commutes (through t f) (drawRows left top address count) (drawRows left top address count) := by
  induction count generalizing top address with
  | zero => exact .pure ()
  | succ count ih =>
    refine .bind (through_fetchByte address) fun line => ?_
    refine .bind (.modify fun b => ?_) fun _ => ih _ _
    simp only [through, drawRow_map hf]
    split <;> rfl

lemma through_drawSprite (hf : Devices.IsHom f) (x y : Register) (count : Nat) :
    Commutes (through t f) (drawSprite x y count) (drawSprite x y count) := by
  refine .get_bind fun b => .bind (through_modifyCpu fun _ _ => rfl) fun _ => ?_
  exact .bind (through_drawRows hf _ _ _ _) fun _ => .pure _

lemma through_awaitKey (hf : Devices.IsHom f) (x : Register) :
    Commutes (through t f) (awaitKey x) (awaitKey x) := by
  intro b
  simp only [awaitKey, through, hf.takePressed]
  rcases Keypad.takePressed b.devices with ⟨_ | key, d⟩ <;> rfl

lemma through_randomInto (hf : Devices.IsHom f) (x : Register) (mask : UInt8) :
    Commutes (through t f) (randomInto x mask) (randomInto x mask) := by
  intro b
  simp only [randomInto, through, hf.nextByte]
  rfl

/-- **An instruction that neither calls nor returns does not look at the call stack**, and at the
devices only to ask them something. -/
theorem through_perform (hf : Devices.IsHom f) {i : Instruction} (hcall : i.mnemonic ≠ .call)
    (hret : i.mnemonic ≠ .ret) : Commutes (through t f) (perform i) (perform i) := by
  unfold perform
  cases hi : i.mnemonic with
  | call => exact absurd hi hcall
  | ret => exact absurd hi hret
  | cls =>
    intro b
    simp only [mapDevices, through, hf.clear, Outcome.map]
  | jump | jumpBeyond => exact through_jumpTo fun _ _ => rfl
  | skipEqByte | skipNeByte | skipEq | skipNe => exact through_skipIf fun _ => rfl
  | skipKey | skipNoKey =>
    refine through_skipIf fun b => ?_
    simp only [through, hf.isPressed]
    rfl
  | random => exact through_randomInto hf _ _
  | draw => exact through_drawSprite hf _ _ _
  | waitKey => exact through_awaitKey hf _
  | digits => exact through_storeAtIndex (fun _ => rfl) (.pure _)
  | store => exact through_storeAtIndex (fun _ => rfl) (through_update fun _ _ => rfl)
  | load =>
    refine .get_bind fun b => .bind (through_loadRegisters _ _) fun _ => ?_
    exact through_update fun _ _ => rfl
  | unknown => exact fun _ => rfl
  | _ => exact through_update fun _ _ => rfl

end Board

end Chip8
