import Mathlib.Tactic.Lemma
import Chip8.Proofs.Machine.Batch

set_option autoImplicit false
set_option relaxedAutoImplicit false

/-!
# Which keys are looked at

Looking whether a key is down changes nothing, so that no record of requests tells of it. But it can
be read off the machine: only two kinds of instruction look at a key, and each of them at the one
whose number is in its register. What the keypad would say of any other key makes no difference.

## Main definitions

* `Chip8.Devices.answering` — the same devices, with other answers about keys.
* `Chip8.Board.lookedAt?`, `Chip8.Event.lookedAt?` — the number of the key that is looked at.
* `Chip8.Machine.looksTo` — all of them while a machine advances.

## Main results

* `Chip8.Machine.handle_answering`, `Chip8.Machine.advanceTo_answering` — nothing else depends on
  what a keypad says of its keys.
* `Chip8.Machine.looks_of_run` — a run looks at the same keys as one advance.
* `Chip8.Machine.looksTo_eq_append`, `Chip8.Machine.looksTo_eq_of_error` — the keys that are looked
  at in two goes.
-/

namespace Chip8

/-- The devices with other answers to the question whether a key is down. -/
@[reducible]
def Devices.answering {δ : Type} (devices : Devices δ) (held : δ → UInt8 → Bool) : Devices δ :=
  { devices with isPressed := held }

/-! ## Instructions -/

namespace Board

variable {δ : Type}

/-- The number of the key at which an instruction looks. -/
def lookedAt? (i : Instruction) (b : Board δ) : Option UInt8 :=
  if i.mnemonic = .skipKey ∨ i.mnemonic = .skipNoKey then some (b.cpu.v (i.register 0)) else none

lemma skipIf_congr {p q : Board δ → Bool} {b : Board δ} (h : p b = q b) :
    skipIf p b = skipIf q b := by
  rw [skipIf, skipIf, h]

variable [devices : Devices δ] (held : δ → UInt8 → Bool)

/-- Drawing asks for no key. -/
lemma drawRows_answering (left top : Nat) (address : UInt16) (count : Nat) :
    @drawRows δ (devices.answering held) left top address count =
      drawRows left top address count := by
  induction count generalizing top address with
  | zero => rfl
  | succ count ih =>
    simp only [drawRows, ih]
    rfl

/-- The effect of an instruction depends on one key at most. -/
lemma perform_answering {i : Instruction} {b : Board δ}
    (h : ∀ key ∈ b.lookedAt? i, held b.devices key = Keypad.isPressed b.devices key) :
    @perform δ (devices.answering held) i b = perform i b := by
  have hlook (hi : i.mnemonic = .skipKey ∨ i.mnemonic = .skipNoKey) :
      held b.devices (b.cpu.v (i.register 0)) =
        Keypad.isPressed b.devices (b.cpu.v (i.register 0)) :=
    h _ (if_pos hi)
  unfold perform
  cases hi : i.mnemonic with
  | skipKey => exact skipIf_congr (hlook (Or.inl hi))
  | skipNoKey => exact skipIf_congr (congrArg not (hlook (Or.inr hi)))
  | draw => simp only [drawSprite, drawRows_answering]
  | _ => rfl

lemma execute_answering {i : Instruction} {b : Board δ}
    (h : ∀ key ∈ b.lookedAt? i, held b.devices key = Keypad.isPressed b.devices key) :
    @execute δ (devices.answering held) i b = execute i b := by
  have hperform := perform_answering held h
  simp only [execute, Bind.bind, Action.bind, Action.get, Action.note, hperform]

end Board

/-! ## Ticks -/

namespace Event

variable {δ : Type}

/-- The number of the key that is looked at when a tick is handled: only a tick of the cycle clock
looks at any. -/
def lookedAt? (e : Event δ) : Option UInt8 :=
  if e.tick = .cycle then
    (e.machine.memory.getWord e.machine.cpu.pc).toOption.bind fun word =>
      e.machine.toBoard.lookedAt? (Table.standard.decode word)
  else none

end Event

namespace Machine

variable {δ : Type} [devices : Devices δ]

section Answering

variable (held : δ → UInt8 → Bool) {m : Machine δ} {now : Nat}

/-- The keypad would give the same answer if it were asked for the key at which a tick looks. -/
def Agrees (e : Event δ) : Prop :=
  ∀ key ∈ e.lookedAt?, held e.machine.devices key = Keypad.isPressed e.machine.devices key

/-- **A tick is handled in the same way by a keypad that gives the same answer** about the one key
that is looked at. -/
lemma handle_answering {t : Tick} {due : Nat} (h : Agrees held ⟨t, due, m⟩) :
    @handle δ (devices.answering held) t m = handle t m := by
  cases t with
  | delay => rfl
  | sound => rfl
  | cycle =>
    cases hword : m.memory.getWord m.cpu.pc with
    | error fault => simp only [handle, cycle, Action.query, Bind.bind, Action.bind, hword]
    | ok word =>
      have hexecute := Board.execute_answering (i := Table.standard.decode word)
        (b := m.toBoard) held fun key hkey => h key <| by
          simpa [Event.lookedAt?, hword, Except.toOption] using hkey
      simp only [handle, cycle, Action.query, Bind.bind, Action.bind, hword, onBoard, Action.zoom,
        hexecute]

/-- The same ticks are handled, and they come to the same outcome. -/
lemma Advances.answering {es : List (Event δ)} {o : Outcome (Machine δ) Unit}
    (h : Advances now m es o) (hes : ∀ e ∈ es, Agrees held e) :
    @Advances δ (devices.answering held) now m es o := by
  induction h with
  | idle hp =>
    let := devices.answering held
    exact .idle hp
  | fault hp hh =>
    obtain ⟨hfirst, -⟩ := List.forall_mem_cons.mp hes
    have hhandle := (handle_answering held hfirst).trans hh
    let := devices.answering held
    exact .fault hp hhandle
  | tick hp hh _ ih =>
    obtain ⟨hfirst, hrest⟩ := List.forall_mem_cons.mp hes
    have hhandle := (handle_answering held hfirst).trans hh
    have hothers := ih hrest
    let := devices.answering held
    exact .tick hp hhandle hothers

/-- **A machine advances in the same way with a keypad that gives the same answers** about the keys
that are looked at, each at its time. What it would say of any other key, or at another time, makes
no difference. -/
theorem advanceTo_answering (hm : m.clocks.Ticking)
    (h : ∀ e ∈ eventsTo now m, Agrees held e) :
    @eventsTo δ (devices.answering held) now m = eventsTo now m ∧
      @advanceTo δ (devices.answering held) now m = advanceTo now m := by
  have hadvances := (advances_advanceTo hm now).answering held h
  let := devices.answering held
  exact hadvances.eq hm

end Answering

/-! ## Runs -/

/-- The numbers of the keys that are looked at while the machine advances to `now`, in order. -/
def looksTo (now : Nat) (m : Machine δ) : List UInt8 := (eventsTo now m).filterMap Event.lookedAt?

/-- **A run looks at the same keys as one advance**, in the same order. -/
theorem looks_of_run {m : Machine δ} (hm : m.clocks.Ticking) {limit : Option Nat} {fuel time : Nat}
    {o : Outcome (Machine δ) Unit} (h : m.run? limit fuel = some (time, o)) :
    (wakeUps limit fuel m).flatMap (fun w => looksTo w.time w.machine) =
      looksTo time (start 0 m).state := by
  obtain ⟨-, -, hevents⟩ := batch_of_run hm h
  rw [looksTo, ← hevents, List.filterMap_flatMap]
  rfl

/-- The second instruction looks at the key whose number the first has put into a register. -/
example :
    looksTo 3 (start 0 (load (.ofList [0x61, 0x05, 0xe1, 0xa1]) fresh).state).state = [5] := by
  decide +kernel

section Split

variable {m m₁ : Machine δ} {t₁ t₂ : Nat} {ns : List Notice}

/-- The keys that are looked at in two goes are those that are looked at in one. -/
lemma looksTo_eq_append (hm : m.clocks.Ticking) (hle : t₁ ≤ t₂)
    (h : advanceTo t₁ m = ⟨m₁, .ok (), ns⟩) : looksTo t₂ m = looksTo t₁ m ++ looksTo t₂ m₁ := by
  obtain ⟨hevents, -⟩ := advanceTo_of_ok hm hle h
  rw [looksTo, hevents, List.filterMap_append]
  rfl

/-- After a failure no key is looked at. -/
lemma looksTo_eq_of_error {fault : Fault} (hm : m.clocks.Ticking) (hle : t₁ ≤ t₂)
    (h : advanceTo t₁ m = ⟨m₁, .error fault, ns⟩) : looksTo t₂ m = looksTo t₁ m := by
  obtain ⟨hevents, -⟩ := advanceTo_of_error hm hle h
  rw [looksTo, hevents]
  rfl

end Split

end Machine

end Chip8
