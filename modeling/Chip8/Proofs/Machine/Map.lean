import Chip8.Machine.Loop
import Chip8.Proofs.Devices.Recorder
import Chip8.Proofs.Instruction.Unread
import Chip8.Proofs.Machine.Tick

set_option autoImplicit false
set_option relaxedAutoImplicit false

/-!
# Machines with other devices

A machine knows its devices by their answers alone. With devices that do the same through some
function it does the same, whatever it is made to do: it carries out the same instructions, fails at
the same place and sleeps as long. A record of what the devices are asked can so be kept during any
run and changes nothing about it.

## Main definitions

* `Chip8.Board.map`, `Chip8.Machine.map` — a machine with its devices seen through a function.
* `Chip8.Machine.recorded` — a machine with an empty record of what its devices are asked.

## Main results

* `Chip8.Board.commutes_execute` — one instruction.
* `Chip8.Machine.commutes_advanceTo` — every tick that is due.
* `Chip8.Machine.run?_map` — a whole run.
-/

namespace Chip8

open Chip8.Action (Commutes)

variable {δ ε α : Type}

/-- The board with its devices seen through `f`. -/
def Board.map (f : δ → ε) (b : Board δ) : Board ε := ⟨b.cpu, b.memory, f b.devices⟩

/-- The machine with its devices seen through `f`. -/
def Machine.map (f : δ → ε) (m : Machine δ) : Machine ε :=
  ⟨m.toBoard.map f, m.clocks, m.soundOn, m.cycles⟩

/-- The machine with an empty record of what its devices are asked. -/
def Machine.recorded (m : Machine δ) : Machine (Recorder δ) := m.map Recorder.blank

lemma Machine.map_recorded (m : Machine δ) : m.recorded.map Recorder.devices = m := rfl

/-! ## Instructions -/

namespace Board

lemma commutes_modifyCpu (f : δ → ε) (g : Cpu → Cpu) :
    Commutes (map f) (modifyCpu g) (modifyCpu g) :=
  .modify fun _ => rfl

lemma commutes_callTo (f : δ → ε) (target : UInt16) :
    Commutes (map f) (callTo target) (callTo target) := by
  intro b
  simp only [callTo, map]
  cases b.cpu.push (b.cpu.pc + instructionSize) <;> rfl

lemma commutes_returnToCaller (f : δ → ε) :
    Commutes (map f) returnToCaller returnToCaller := by
  intro b
  simp only [returnToCaller, map]
  cases b.cpu.pop <;> rfl

lemma commutes_onDevices {f : δ → ε} {x : Action δ α} {y : Action ε α}
    (h : Commutes f x y) : Commutes (map f) (onDevices x) (onDevices y) :=
  .zoom (fun _ => rfl) (fun _ _ => rfl) h

variable [Devices δ] [Devices ε] {f : δ → ε}

/-- The effect of an instruction. Calls and returns ask the devices for nothing. -/
lemma commutes_perform (hf : Devices.IsHom f) (i : Instruction) :
    Commutes (map f) (perform i) (perform i) := by
  by_cases hcall : i.mnemonic = .call
  · simp only [perform, hcall]
    exact commutes_callTo f _
  by_cases hret : i.mnemonic = .ret
  · simp only [perform, hret]
    exact commutes_returnToCaller f
  · exact through_perform (t := id) hf hcall hret

/-- One instruction does the same with devices that do the same. -/
theorem commutes_execute (hf : Devices.IsHom f) (i : Instruction) :
    Commutes (map f) (execute i) (execute i) := by
  refine .get_bind fun b => .bind (.note _) fun _ => ?_
  exact .bind (commutes_perform hf i) fun flow => commutes_modifyCpu f _

end Board

/-! ## Ticks -/

namespace Machine

lemma commutes_onBoard {f : δ → ε} {x : Action (Board δ) α} {y : Action (Board ε) α}
    (h : Commutes (Board.map f) x y) : Commutes (map f) (onBoard x) (onBoard y) :=
  .zoom (fun _ => rfl) (fun _ _ => rfl) h

lemma commutes_onDevices {f : δ → ε} {x : Action δ α} {y : Action ε α} (h : Commutes f x y) :
    Commutes (map f) (onDevices x) (onDevices y) :=
  commutes_onBoard (Board.commutes_onDevices h)

lemma commutes_onClocks (f : δ → ε) (x : Action Clocks α) :
    Commutes (map f) (onClocks x) (onClocks x) :=
  fun _ => rfl

lemma commutes_modifyCpu (f : δ → ε) (g : Cpu → Cpu) :
    Commutes (map f) (modifyCpu g) (modifyCpu g) :=
  commutes_onBoard (Board.commutes_modifyCpu f g)

lemma commutes_setSoundOn (f : δ → ε) (on : Bool) :
    Commutes (map f) (setSoundOn on) (setSoundOn on) :=
  .modify fun _ => rfl

lemma commutes_begin (f : δ → ε) : Commutes (map f) begin begin :=
  fun _ => rfl

variable [Devices δ] [Devices ε] {f : δ → ε}

lemma commutes_cycle (hf : Devices.IsHom f) : Commutes (map f) cycle cycle := by
  refine .bind (.query fun _ => rfl) fun word => ?_
  refine .bind (commutes_onBoard (Board.commutes_execute hf _)) fun _ => ?_
  exact .bind (.modify fun _ => rfl) fun _ => .pure _

lemma commutes_delayTick (hf : Devices.IsHom f) : Commutes (map f) delayTick delayTick := by
  refine .bind (commutes_modifyCpu f _) fun _ => ?_
  exact .bind (commutes_onDevices hf.present) fun _ => commutes_onDevices hf.poll

lemma commutes_silence (hf : Devices.IsHom f) : Commutes (map f) silence silence := by
  refine .get_bind fun m => .ite ?_ (.pure ())
  exact .bind (commutes_onDevices hf.silence) fun _ => commutes_setSoundOn f false

lemma commutes_beep (hf : Devices.IsHom f) : Commutes (map f) beep beep := by
  refine .get_bind fun m => .ite ?_ (.pure ())
  exact .bind (commutes_onDevices hf.beep) fun _ => commutes_setSoundOn f true

lemma commutes_soundTick (hf : Devices.IsHom f) : Commutes (map f) soundTick soundTick := by
  refine .bind (commutes_modifyCpu f _) fun _ => .get_bind fun m => ?_
  exact .ite (commutes_beep hf) (commutes_silence hf)

lemma commutes_handle (hf : Devices.IsHom f) (t : Tick) :
    Commutes (map f) (handle t) (handle t) := by
  cases t with
  | delay => exact commutes_delayTick hf
  | sound => exact commutes_soundTick hf
  | cycle => exact .bind (commutes_cycle hf) fun _ => .pure ()

lemma commutes_advance (hf : Devices.IsHom f) (limit now : Nat) :
    Commutes (map f) (advance limit now) (advance limit now) := by
  induction limit with
  | zero => exact .pure ()
  | succ limit ih =>
    intro m
    cases hp : m.clocks.pop now with
    | none =>
      have hp' : (m.map f).clocks.pop now = none := hp
      rw [advance_of_pop_none hp', advance_of_pop_none hp]
      rfl
    | some p =>
      obtain ⟨⟨t, due⟩, clocks⟩ := p
      have hp' : (m.map f).clocks.pop now = some ((t, due), clocks) := hp
      rw [advance_of_pop_some hp', advance_of_pop_some hp]
      exact Commutes.bind (commutes_handle hf t) (fun _ => ih) { m with clocks := clocks }

/-- Dealing with every tick that is due does the same with devices that do the same. -/
theorem commutes_advanceTo (hf : Devices.IsHom f) (now : Nat) :
    Commutes (map f) (advanceTo now) (advanceTo now) :=
  fun m => commutes_advance hf _ now m

lemma commutes_stop (hf : Devices.IsHom f) : Commutes (map f) stop stop :=
  .bind (commutes_onClocks f _) fun _ => commutes_silence hf

/-! ## Runs -/

lemma commutes_wake (hf : Devices.IsHom f) (limit : Option Nat) (now : Nat) :
    Commutes (map f) (wake limit now) (wake limit now) := by
  refine .bind (commutes_advanceTo hf now) fun _ => .get_bind fun m => ?_
  have hquit : Keypad.quitRequested (m.map f).devices = Keypad.quitRequested m.devices :=
    hf.quitRequested m.devices
  rw [hquit]
  refine .ite (.bind (.note _) fun _ => .pure none) ?_
  exact .ite (.pure none) (.pure _)

lemma commutes_finish (hf : Devices.IsHom f) : Commutes (map f) finish finish :=
  .bind (commutes_stop hf) fun _ => .get_bind fun _ => .note _

/-- Waking and sleeping does the same with devices that do the same, by induction on how often the
machine may wake up. -/
lemma runFrom?_map (hf : Devices.IsHom f) (limit : Option Nat) (fuel now : Nat) (m : Machine δ) :
    runFrom? limit fuel now (m.map f) =
      (runFrom? limit fuel now m).map fun (time, o) => (time, o.map (map f)) := by
  induction fuel generalizing now m with
  | zero => rfl
  | succ fuel ih =>
    have hwake := commutes_wake hf limit now m
    rw [runFrom?, runFrom?, hwake]
    rcases wake limit now m with ⟨m', fault | _ | pause, ns⟩
    · rfl
    · rfl
    · simp only [Outcome.map, ih, Option.map_map]
      rfl

/-- **A whole run is the same with devices that do the same**: it lasts as long, and comes to the
same outcome, seen through the function. -/
theorem run?_map (hf : Devices.IsHom f) (limit : Option Nat) (fuel : Nat) (m : Machine δ) :
    (m.map f).run? limit fuel =
      (m.run? limit fuel).map fun (time, o) => (time, o.map (map f)) := by
  have hbegin := commutes_begin f m
  simp only [run?, hbegin]
  change (runFrom? limit fuel 0 ((begin m).state.map f)).map _ = _
  rw [runFrom?_map hf]
  cases runFrom? limit fuel 0 (begin m).state with
  | none => rfl
  | some p =>
    obtain ⟨time, body⟩ := p
    have hfinish := commutes_finish hf body.state
    simp only [Option.map_some, Outcome.map, hfinish]

end Machine

end Chip8
