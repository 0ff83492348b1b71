import Chip8.Machine.Execute
import Chip8.Proofs.Keeps

set_option autoImplicit false
set_option relaxedAutoImplicit false

/-!
# What an instruction leaves alone

Each kind of instruction writes at a few places of the board and nowhere else, whether it succeeds
or fails. The table of these places is all that later proofs know about the instructions that they
are not about.

## Main definitions

* `Chip8.Place` — the places of a board.
* `Chip8.Mnemonic.writes` — the places that a kind of instruction may write, the step of the program
  counter to the next instruction apart.
* `Chip8.Board.Writes` — an action writes at no other places than the given ones.
* `Chip8.Mnemonic.Spares` — what a kind of instruction asks the devices for is lost on a part of
  them.

## Main results

* `Chip8.Board.writes_perform`, `Chip8.Board.writes_execute` — an instruction writes where its kind
  does.
* `Chip8.Board.spares_perform` — a part of the devices that is spared is left alone.
-/

namespace Chip8

/-! ## Places -/

/-- A place of a board. -/
inductive Place where
  | registers
  | index
  | pc
  | delay
  | sound
  | stack
  | memory
  | devices
  deriving DecidableEq, Repr

/-- The two boards hold the same at a place. -/
def Place.Same {δ : Type} (b b' : Board δ) : Place → Prop
  | .registers => b'.cpu.registers = b.cpu.registers
  | .index => b'.cpu.index = b.cpu.index
  | .pc => b'.cpu.pc = b.cpu.pc
  | .delay => b'.cpu.delay = b.cpu.delay
  | .sound => b'.cpu.sound = b.cpu.sound
  | .stack => b'.cpu.stack = b.cpu.stack
  | .memory => b'.memory = b.memory
  | .devices => b'.devices = b.devices

/-- The places that an instruction of this kind may write. That the program counter moves on to
the next instruction is not counted. -/
def Mnemonic.writes : Mnemonic → List Place
  | .cls => [.devices]
  | .ret | .call => [.pc, .stack]
  | .jump | .jumpBeyond => [.pc]
  | .sys | .unknown => []
  | .skipEqByte | .skipNeByte | .skipEq | .skipNe | .skipKey | .skipNoKey => []
  | .setByte | .addByte | .copy | .or | .and | .xor | .getDelay => [.registers]
  | .add | .sub | .subFrom | .shiftRight | .shiftLeft => [.registers]
  | .setIndex | .addIndex | .glyph => [.index]
  | .random | .draw | .waitKey => [.registers, .devices]
  | .setDelay => [.delay]
  | .setSound => [.sound]
  | .digits => [.memory]
  | .store => [.memory, .index]
  | .load => [.registers, .index]

/-- What an instruction of this kind asks the devices for makes no difference to a part of
them. -/
def Mnemonic.Spares {δ τ : Type} [Devices δ] (part : δ → τ) : Mnemonic → Prop
  | .cls => ∀ d, part (Display.clear d) = part d
  | .draw => ∀ d x y bit, part (Display.draw d x y bit).2 = part d
  | .waitKey => ∀ d, part (Keypad.takePressed d).2 = part d
  | .random => ∀ d, part (RandomSource.nextByte d).2 = part d
  | _ => True

namespace Place

variable {δ : Type} {b b' b'' : Board δ} {p : Place}

lemma same_refl (b : Board δ) (p : Place) : p.Same b b := by
  cases p <;> rfl

lemma Same.trans (h : p.Same b b') (h' : p.Same b' b'') : p.Same b b'' := by
  cases p <;> exact Eq.trans h' h

end Place

namespace Board

variable {δ τ α β : Type}

/-! ## Writing at some places only -/

/-- The action writes at the given places and nowhere else, whether it succeeds or fails. -/
def Writes (places : List Place) (x : Action (Board δ) α) : Prop :=
  ∀ b, ∀ p ∉ places, p.Same b (x b).state

namespace Writes

variable {places places' : List Place}

lemma mono {x : Action (Board δ) α} (h : Writes places x) (hsub : places ⊆ places') :
    Writes places' x :=
  fun b p hp => h b p fun hmem => hp (hsub hmem)

lemma pure (a : α) : Writes places (Pure.pure a : Action (Board δ) α) :=
  fun b p _ => p.same_refl b

lemma get : Writes places (Action.get : Action (Board δ) (Board δ)) :=
  fun b p _ => p.same_refl b

lemma note (notice : Notice) : Writes places (Action.note notice : Action (Board δ) Unit) :=
  fun b p _ => p.same_refl b

lemma query (f : Board δ → Except Fault α) : Writes places (Action.query f) :=
  fun b p _ => p.same_refl b

lemma bind {x : Action (Board δ) α} {f : α → Action (Board δ) β} (hx : Writes places x)
    (hf : ∀ a, Writes places (f a)) : Writes places (x >>= f) := by
  intro b p hp
  rcases Action.state_bind x f b with h | ⟨a, h⟩
  · rw [h]
    exact hx b p hp
  · rw [h]
    exact (hx b p hp).trans (hf a _ p hp)

end Writes

lemma writes_skipIf (test : Board δ → Bool) : Writes [] (skipIf test) :=
  fun b p _ => p.same_refl b

lemma writes_setV (r : Cpu → Register) (value : Cpu → UInt8) :
    Writes [.registers] (update (δ := δ) fun c => c.setV (r c) (value c)) := by
  intro b p hp
  cases p with
  | registers => simp at hp
  | _ => rfl

lemma writes_updateFlagged (r : Register) (f : Cpu → Bool × UInt8) :
    Writes [.registers] (updateFlagged (δ := δ) r f) := by
  intro b p hp
  cases p with
  | registers => simp at hp
  | _ => rfl

lemma writes_setIndex (f : Cpu → UInt16) :
    Writes [.index] (update (δ := δ) fun c => { c with index := f c }) := by
  intro b p hp
  cases p with
  | index => simp at hp
  | _ => rfl

lemma writes_setPc (f : Cpu → UInt16) :
    Writes [.pc] (modifyCpu (δ := δ) fun c => { c with pc := f c }) := by
  intro b p hp
  cases p with
  | pc => simp at hp
  | _ => rfl

lemma writes_setDelay (f : Cpu → UInt8) :
    Writes [.delay] (update (δ := δ) fun c => { c with delay := f c }) := by
  intro b p hp
  cases p with
  | delay => simp at hp
  | _ => rfl

lemma writes_setSound (f : Cpu → UInt8) :
    Writes [.sound] (update (δ := δ) fun c => { c with sound := f c }) := by
  intro b p hp
  cases p with
  | sound => simp at hp
  | _ => rfl

lemma writes_callTo (target : UInt16) : Writes [.pc, .stack] (callTo (δ := δ) target) := by
  intro b p hp
  simp only [callTo, Cpu.push]
  cases b.cpu.stack.push? (b.cpu.pc + instructionSize) with
  | none => exact p.same_refl b
  | some stack =>
    cases p with
    | pc | stack => simp at hp
    | _ => rfl

lemma writes_returnToCaller : Writes [.pc, .stack] (returnToCaller (δ := δ)) := by
  intro b p hp
  simp only [returnToCaller, Cpu.pop]
  cases b.cpu.stack.pop? with
  | none => exact p.same_refl b
  | some popped =>
    cases p with
    | pc | stack => simp at hp
    | _ => rfl

lemma writes_storeByte (address : UInt16) (value : UInt8) :
    Writes [.memory] (storeByte (δ := δ) address value) := by
  intro b p hp
  simp only [storeByte, Action.attempt]
  cases b.memory.setByte address value with
  | error fault => exact p.same_refl b
  | ok m =>
    cases p with
    | memory => simp at hp
    | _ => rfl

lemma writes_storeBytes (address : UInt16) (bytes : List UInt8) :
    Writes [.memory] (storeBytes (δ := δ) address bytes) := by
  induction bytes generalizing address with
  | nil => exact .pure ()
  | cons byte rest ih => exact .bind (writes_storeByte address byte) fun _ => ih _

lemma writes_loadRegisters (address : UInt16) (rs : List Register) :
    Writes [.registers] (loadRegisters (δ := δ) address rs) := by
  induction rs generalizing address with
  | nil => exact .pure ()
  | cons r rest ih =>
    refine .bind (.query _) fun value => ?_
    exact .bind (writes_setV (fun _ => r) fun _ => value) fun _ => ih _

variable [Devices δ]

lemma writes_clear : Writes [.devices] fun b : Board δ =>
    (⟨b.mapDevices Display.clear, .ok .next, []⟩ : Outcome (Board δ) Flow) := by
  intro b p hp
  cases p with
  | devices => simp at hp
  | _ => rfl

lemma writes_drawRows (left top : Nat) (address : UInt16) (count : Nat) :
    Writes [.registers, .devices] (drawRows (δ := δ) left top address count) := by
  induction count generalizing top address with
  | zero => exact .pure ()
  | succ count ih =>
    refine .bind (.query _) fun line => .bind (fun b p hp => ?_) fun _ => ih _ _
    simp only [Action.modify]
    cases p with
    | registers | devices => simp at hp
    | _ => split <;> rfl

lemma writes_drawSprite (x y : Register) (count : Nat) :
    Writes [.registers, .devices] (drawSprite (δ := δ) x y count) := by
  refine .bind .get fun b => .bind ?_ fun _ => .bind (writes_drawRows _ _ _ _) fun _ => .pure _
  exact (writes_setV (fun _ => Cpu.flagRegister) fun _ => false.toUInt8).mono (by simp)

lemma writes_awaitKey (x : Register) :
    Writes [.registers, .devices] (awaitKey (δ := δ) x) := by
  intro b p hp
  simp only [awaitKey]
  rcases Keypad.takePressed b.devices with ⟨_ | key, d⟩ <;>
  cases p with
  | registers | devices => simp at hp
  | _ => rfl

lemma writes_randomInto (x : Register) (mask : UInt8) :
    Writes [.registers, .devices] (randomInto (δ := δ) x mask) := by
  intro b p hp
  cases p with
  | registers | devices => simp at hp
  | _ => rfl

/-- **An instruction writes where its kind does**, whether it succeeds or fails. -/
theorem writes_perform (i : Instruction) : Writes i.mnemonic.writes (perform (δ := δ) i) := by
  unfold perform
  cases i.mnemonic with
  | cls => exact writes_clear
  | ret => exact writes_returnToCaller
  | call => exact writes_callTo _
  | jump | jumpBeyond => exact writes_setPc _
  | sys | unknown => exact fun b p _ => p.same_refl b
  | skipEqByte | skipNeByte | skipEq | skipNe | skipKey | skipNoKey => exact writes_skipIf _
  | setByte | addByte | copy | or | and | xor | getDelay => exact writes_setV (fun _ => _) _
  | add | sub | subFrom | shiftRight | shiftLeft => exact writes_updateFlagged _ _
  | setIndex | addIndex | glyph => exact writes_setIndex _
  | random => exact writes_randomInto _ _
  | draw => exact writes_drawSprite _ _ _
  | waitKey => exact writes_awaitKey _
  | setDelay => exact writes_setDelay _
  | setSound => exact writes_setSound _
  | digits => exact .bind .get fun b => .bind (writes_storeBytes _ _) fun _ => .pure _
  | store =>
    refine .bind .get fun b => .bind ((writes_storeBytes _ _).mono ?_) fun _ => ?_
    · simp [Mnemonic.writes]
    · exact (writes_setIndex _).mono (by simp [Mnemonic.writes])
  | load =>
    refine .bind .get fun b => .bind ((writes_loadRegisters _ _).mono ?_) fun _ => ?_
    · simp [Mnemonic.writes]
    · exact (writes_setIndex _).mono (by simp [Mnemonic.writes])

/-- The whole of an instruction writes the program counter besides. -/
theorem writes_execute (i : Instruction) :
    Writes (.pc :: i.mnemonic.writes) (execute (δ := δ) i) := by
  refine .bind .get fun b => .bind (.note _) fun _ => ?_
  refine .bind ((writes_perform i).mono (List.subset_cons_self _ _)) fun flow => ?_
  exact (writes_setPc _).mono (by simp)

/-! ## Parts of the devices -/

variable {part : δ → τ}

lemma part_drawRow (h : ∀ d x y bit, part (Display.draw d x y bit).2 = part d) (left y : Nat)
    (line : UInt8) (d : δ) : part (drawRow left y line d).2 = part d := by
  unfold drawRow
  generalize List.range 8 = columns
  generalize false = hit
  induction columns generalizing hit d with
  | nil => rfl
  | cons column columns ih =>
    rw [List.foldl_cons, ih]
    exact h d _ _ _

lemma keeps_drawRows (h : ∀ d x y bit, part (Display.draw d x y bit).2 = part d)
    (left top : Nat) (address : UInt16) (count : Nat) :
    Action.Keeps (fun b => part b.devices) (drawRows left top address count) := by
  induction count generalizing top address with
  | zero => exact .pure ()
  | succ count ih =>
    refine .bind (.query _) fun line => .bind (.modify fun b => ?_) fun _ => ih _ _
    exact part_drawRow h _ _ _ _

/-- **A part of the devices that is spared is left alone.** -/
theorem spares_perform {i : Instruction} (h : i.mnemonic.Spares part) :
    Action.Keeps (fun b => part b.devices) (perform i) := by
  have hframe : Place.devices ∉ i.mnemonic.writes →
      Action.Keeps (fun b => part b.devices) (perform i) :=
    fun hp b => congrArg part (writes_perform i b _ hp)
  unfold perform at hframe ⊢
  revert h hframe
  cases i.mnemonic with
  | cls => exact fun h _ b => h b.devices
  | draw =>
    intro h _
    refine .bind .get fun b => .bind (.modify fun _ => rfl) fun _ => ?_
    exact .bind (keeps_drawRows h _ _ _ _) fun _ => .pure _
  | waitKey =>
    intro h _ b
    have htaken := h b.devices
    simp only [awaitKey]
    rcases hk : Keypad.takePressed b.devices with ⟨_ | key, d⟩ <;>
    · rw [hk] at htaken
      exact htaken
  | random => exact fun h _ b => h b.devices
  | _ => exact fun _ hframe => hframe (by simp [Mnemonic.writes])

end Board

end Chip8
