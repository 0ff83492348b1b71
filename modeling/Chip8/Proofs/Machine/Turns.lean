import Chip8.Proofs.Commutes
import Chip8.Proofs.Machine.Advance

set_option autoImplicit false
set_option relaxedAutoImplicit false

/-!
# Ticks, whatever comes of them

Ticks that are handled one after the other, each whatever came of those before: which instructions
they carry out, why some of them fail, and what becomes of the timers. The clocks take no part in
this; when the ticks come is another matter.

## Main definitions

* `Chip8.Machine.turn`, `Chip8.Machine.turns` — the machine after a tick, and after several.
* `Chip8.Machine.executed` — the instructions that ticks carry out.
* `Chip8.Machine.faults` — why ticks fail.
* `Chip8.Machine.setClocks` — a machine with other clocks.
* `Chip8.Machine.Timeless` — a part of the machine that the timers leave alone.
* `Chip8.Timer` — the two timers.

## Main results

* `Chip8.Machine.cycles_turns` — every instruction that is carried out is counted.
* `Chip8.Machine.toNat_read_turns` — a timer counts down at each of its ticks, until it is set.
* `Chip8.Machine.turns_setClocks`, `Chip8.Machine.faults_setClocks` — the clocks make no
  difference.
* `Chip8.Machine.toBoard_advanceTo` — advancing is handling the ticks that are due.
-/

namespace Chip8

/-! ## Timers -/

/-- The timers of a processor. -/
inductive Timer where
  | delay
  | sound
  deriving DecidableEq, Repr

namespace Timer

/-- What the timer shows. -/
def read : Timer → Cpu → UInt8
  | delay, c => c.delay
  | sound, c => c.sound

/-- The tick at which the timer counts down. -/
def tick : Timer → Tick
  | delay => .delay
  | sound => .sound

/-- The only kind of instruction that sets the timer. -/
def setter : Timer → Mnemonic
  | delay => .setDelay
  | sound => .setSound

/-- The place of the timer. -/
def place : Timer → Place
  | delay => .delay
  | sound => .sound

lemma same_place_iff {δ : Type} {timer : Timer} {b b' : Board δ} :
    timer.place.Same b b' ↔ timer.read b'.cpu = timer.read b.cpu := by
  cases timer <;> rfl

lemma place_notMem_writes {timer : Timer} {m : Mnemonic} (h : m ≠ timer.setter) :
    timer.place ∉ Place.pc :: m.writes := by
  revert h
  cases timer <;> cases m <;> decide

end Timer

lemma Cpu.toNat_countDown (timer : UInt8) : (countDown timer).toNat = timer.toNat - 1 := by
  unfold countDown
  split
  · rename_i hzero
    subst hzero
    rfl
  · rename_i hpos
    have hle : (1 : UInt8) ≤ timer := by
      rw [UInt8.le_iff_toNat_le, UInt8.toNat_one]
      exact Nat.pos_of_ne_zero fun hzero => hpos (UInt8.toNat_inj.mp hzero)
    rw [UInt8.toNat_sub_of_le _ _ hle, UInt8.toNat_one]

namespace Machine

variable {δ τ α : Type}

/-- The machine with other clocks. -/
def setClocks (c : Clocks) (m : Machine δ) : Machine δ := { m with clocks := c }

variable [Devices δ]

/-- The machine that a tick leaves, whether it succeeds or fails. -/
def turn (m : Machine δ) (t : Tick) : Machine δ := (handle t m).state

/-- The machine that several ticks leave, each handled whatever came of those before. -/
def turns (m : Machine δ) (ts : List Tick) : Machine δ := ts.foldl turn m

/-- The instruction that a tick carries out; none if it fails or belongs to a timer. -/
def carriedOut (m : Machine δ) : Tick → Option Instruction
  | .cycle => (cycle m).result.toOption
  | .delay | .sound => none

/-- The instructions that ticks carry out. -/
def executed : Machine δ → List Tick → List Instruction
  | _, [] => []
  | m, t :: ts => (m.carriedOut t).toList ++ executed (m.turn t) ts

/-- Why a tick fails; none if it succeeds. -/
def fault? (m : Machine δ) (t : Tick) : Option Fault :=
  match (handle t m).result with
  | .ok () => none
  | .error fault => some fault

/-- Why ticks fail: a fault for each that does. -/
def faults : Machine δ → List Tick → List Fault
  | _, [] => []
  | m, t :: ts => (m.fault? t).toList ++ faults (m.turn t) ts

section Turns

variable {m : Machine δ}

lemma turns_cons (m : Machine δ) (t : Tick) (ts : List Tick) :
    m.turns (t :: ts) = (m.turn t).turns ts := rfl

lemma turns_concat (m : Machine δ) (ts : List Tick) (t : Tick) :
    m.turns (ts ++ [t]) = (m.turns ts).turn t := by
  simp [turns]

lemma state_turn_cycle (m : Machine δ) : m.turn .cycle = (cycle m).state := by
  rcases hc : cycle m with ⟨m', fault | i, ns⟩
  · exact congrArg Outcome.state (Action.bind_of_error hc)
  · exact congrArg Outcome.state (Action.bind_of_ok hc)

lemma cpu_turn_delay (m : Machine δ) : (m.turn .delay).cpu = m.cpu.tickDelay :=
  cpu_delayTick m

lemma cpu_turn_sound (m : Machine δ) : (m.turn .sound).cpu = m.cpu.tickSound :=
  cpu_soundTick m

/-- A part of the machine that the ticks of the timers leave alone: the processor and the flag for
the speaker are no part of it, and neither is what showing the picture, looking at the keys and
calling the speaker change. -/
structure Timeless (part : Machine δ → τ) : Prop where
  cpu : ∀ c m, part { m with cpu := c } = part m
  soundOn : ∀ on m, part { m with soundOn := on } = part m
  present : Action.Keeps part (onDevices Display.present)
  poll : Action.Keeps part (onDevices Keypad.poll)
  beep : Action.Keeps part (onDevices Speaker.beep)
  silence : Action.Keeps part (onDevices Speaker.silence)

lemma Timeless.turn {part : Machine δ → τ} (h : Timeless part) {t : Tick} (ht : t ≠ .cycle)
    (m : Machine δ) : part (m.turn t) = part m := by
  cases t with
  | cycle => exact absurd rfl ht
  | delay =>
    have hcpu : Action.Keeps part (modifyCpu Cpu.tickDelay) := fun m => h.cpu m.cpu.tickDelay m
    exact Action.Keeps.bind hcpu (fun _ => .bind h.present fun _ => h.poll) m
  | sound => exact keeps_soundTick_of h.cpu h.soundOn h.beep h.silence m

/-- A tick of the cycle clock fails and carries out nothing, or it carries out an instruction. -/
lemma turn_cycle (m : Machine δ) :
    (∃ fault ns, cycle m = ⟨m.turn .cycle, .error fault, ns⟩ ∧ m.carriedOut .cycle = none) ∨
      ∃ i ns, cycle m = ⟨m.turn .cycle, .ok i, ns⟩ ∧ m.carriedOut .cycle = some i := by
  have hstate : m.turn .cycle = (cycle m).state := state_turn_cycle m
  rw [carriedOut, hstate]
  rcases cycle m with ⟨m', fault | i, ns⟩
  · exact .inl ⟨fault, ns, rfl, rfl⟩
  · exact .inr ⟨i, ns, rfl, rfl⟩

/-! ## Counting instructions -/

lemma cycles_turn (m : Machine δ) (t : Tick) :
    (m.turn t).cycles = m.cycles + (m.carriedOut t).toList.length := by
  cases t with
  | delay => exact aside_cycles.keeps_delayTick m
  | sound => exact aside_cycles.keeps_soundTick m
  | cycle =>
    rcases m.turn_cycle with ⟨fault, ns, hc, hnone⟩ | ⟨i, ns, hc, hsome⟩
    · have hcount := cycles_of_error (congrArg Outcome.result hc)
      rw [hc] at hcount
      rw [hnone]
      exact hcount
    · obtain ⟨_, _, _, _, _, hturn⟩ := cycle_eq_ok hc
      rw [hsome, hturn]
      rfl

/-- **Every instruction that is carried out is counted**, and no other. -/
theorem cycles_turns (m : Machine δ) (ts : List Tick) :
    (m.turns ts).cycles = m.cycles + (m.executed ts).length := by
  induction ts generalizing m with
  | nil => rfl
  | cons t ts ih =>
    rw [turns_cons, ih, cycles_turn, executed, List.length_append]
    omega

/-! ## Counting down -/

lemma toNat_read_turn (timer : Timer) (t : Tick)
    (h : ∀ i ∈ m.carriedOut t, i.mnemonic ≠ timer.setter) :
    (timer.read (m.turn t).cpu).toNat =
      (timer.read m.cpu).toNat - if t = timer.tick then 1 else 0 := by
  cases t with
  | delay =>
    rw [cpu_turn_delay]
    cases timer with
    | delay => exact Cpu.toNat_countDown _
    | sound => rfl
  | sound =>
    rw [cpu_turn_sound]
    cases timer with
    | delay => rfl
    | sound => exact Cpu.toNat_countDown _
  | cycle =>
    have hother : ¬ Tick.cycle = timer.tick := by cases timer <;> decide
    have hsame : timer.place.Same m.toBoard (m.turn .cycle).toBoard := by
      rcases m.turn_cycle with ⟨fault, ns, hc, -⟩ | ⟨i, ns, hc, hsome⟩
      · exact same_of_error hc (by cases timer <;> decide)
      · exact same_of_ok hc (Timer.place_notMem_writes (h i hsome))
    rw [if_neg hother, Timer.same_place_iff.mp hsame]
    rfl

/-- **A timer counts down at each of its ticks**, and stops at zero, whatever fails on the way, as
long as no instruction sets it. -/
theorem toNat_read_turns (timer : Timer) (ts : List Tick)
    (h : ∀ i ∈ m.executed ts, i.mnemonic ≠ timer.setter) :
    (timer.read (m.turns ts).cpu).toNat =
      (timer.read m.cpu).toNat - ts.count timer.tick := by
  induction ts generalizing m with
  | nil => rfl
  | cons t ts ih =>
    simp only [executed, List.mem_append, Option.mem_toList] at h
    have hfirst := toNat_read_turn timer t fun i hi => h i (.inl hi)
    rw [turns_cons, ih fun i hi => h i (.inr hi), hfirst, List.count_cons]
    simp only [beq_iff_eq]
    omega

end Turns

/-! ## Other clocks -/

section OtherClocks

open Chip8.Action (Commutes)

variable {c c' : Clocks}

omit [Devices δ] in
lemma setClocks_setClocks (m : Machine δ) : (m.setClocks c).setClocks c' = m.setClocks c' := rfl

omit [Devices δ] in
lemma setClocks_onBoard (c : Clocks) (x : Action (Board δ) α) :
    Commutes (setClocks c) (onBoard x) (onBoard x) :=
  fun _ => rfl

omit [Devices δ] in
lemma setClocks_setSoundOn (c : Clocks) (on : Bool) :
    Commutes (setClocks c) (setSoundOn (δ := δ) on) (setSoundOn on) :=
  .modify fun _ => rfl

lemma setClocks_silence (c : Clocks) : Commutes (setClocks c) (silence (δ := δ)) silence := by
  refine .get_bind fun m => .ite ?_ (.pure ())
  exact .bind (setClocks_onBoard c _) fun _ => setClocks_setSoundOn c false

lemma setClocks_beep (c : Clocks) : Commutes (setClocks c) (beep (δ := δ)) beep := by
  refine .get_bind fun m => .ite ?_ (.pure ())
  exact .bind (setClocks_onBoard c _) fun _ => setClocks_setSoundOn c true

/-- A tick is handled the same with other clocks. -/
lemma setClocks_handle (c : Clocks) (t : Tick) :
    Commutes (setClocks c) (handle (δ := δ) t) (handle t) := by
  cases t with
  | delay =>
    refine .bind (setClocks_onBoard c _) fun _ => ?_
    exact .bind (setClocks_onBoard c _) fun _ => setClocks_onBoard c _
  | sound =>
    refine .bind (setClocks_onBoard c _) fun _ => .get_bind fun m => ?_
    exact .ite (setClocks_beep c) (setClocks_silence c)
  | cycle =>
    refine .bind (.bind (.query fun _ => rfl) fun word => ?_) fun _ => .pure ()
    exact .bind (setClocks_onBoard c _) fun _ => .bind (.modify fun _ => rfl) fun _ => .pure _

lemma turn_setClocks (m : Machine δ) (t : Tick) :
    (m.setClocks c).turn t = (m.turn t).setClocks c := by
  rw [turn, setClocks_handle c t m]
  rfl

lemma fault?_setClocks (m : Machine δ) (t : Tick) : (m.setClocks c).fault? t = m.fault? t := by
  rw [fault?, setClocks_handle c t m]
  rfl

lemma turns_setClocks (m : Machine δ) (ts : List Tick) :
    (m.setClocks c).turns ts = (m.turns ts).setClocks c := by
  induction ts generalizing m with
  | nil => rfl
  | cons t ts ih => rw [turns_cons, turn_setClocks, ih, turns_cons]

lemma faults_setClocks (m : Machine δ) (ts : List Tick) :
    (m.setClocks c).faults ts = m.faults ts := by
  induction ts generalizing m with
  | nil => rfl
  | cons t ts ih => rw [faults, fault?_setClocks, turn_setClocks, ih, faults]

/-! ## Advancing -/

lemma state_advance (limit now : Nat) (m : Machine δ) :
    (advance limit now m).state =
      (m.turns ((events limit now m).map Event.tick)).setClocks
        (advance limit now m).state.clocks := by
  induction limit generalizing m with
  | zero => rfl
  | succ limit ih =>
    cases hp : m.clocks.pop now with
    | none =>
      rw [advance_of_pop_none hp, events, hp]
      rfl
    | some p =>
      obtain ⟨⟨t, due⟩, clocks⟩ := p
      have hturn : (handle t { m with clocks := clocks }).state = (m.turn t).setClocks clocks :=
        turn_setClocks m t
      rw [advance_of_pop_some hp, events, hp]
      dsimp only
      rcases hh : handle t { m with clocks := clocks } with ⟨m', fault | ⟨⟩, ns⟩ <;>
        rw [hh] at hturn <;>
        obtain rfl : m' = (m.turn t).setClocks clocks := hturn
      · rw [Action.bind_of_error hh]
        rfl
      · rw [Action.bind_of_ok hh]
        dsimp only
        rw [List.map_cons, turns_cons, ih, turns_setClocks]
        rfl

/-- A machine that advances comes to be what the ticks that are due make of it, but for the
clocks. -/
lemma state_advanceTo (now : Nat) (m : Machine δ) :
    (advanceTo now m).state =
      (m.turns ((eventsTo now m).map Event.tick)).setClocks (advanceTo now m).state.clocks :=
  state_advance _ now m

/-- **Advancing is handling the ticks that are due**, one after the other. -/
theorem toBoard_advanceTo (now : Nat) (m : Machine δ) :
    (advanceTo now m).state.toBoard = (m.turns ((eventsTo now m).map Event.tick)).toBoard := by
  rw [state_advanceTo]
  rfl

end OtherClocks

end Machine

end Chip8
