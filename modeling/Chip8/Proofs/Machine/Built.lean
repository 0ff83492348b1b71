import Chip8.Proofs.Clock.History
import Chip8.Proofs.Machine.Run
import Chip8.Scripted

set_option autoImplicit false
set_option relaxedAutoImplicit false

/-!
# Machines that can exist

A machine comes out of `Chip8.Machine.create` and is then worked with. Whatever is done to it, its
clocks have time between their ticks, because a configuration that leaves none is refused.

## Main definitions

* `Chip8.Machine.Built` — the machines that can be made and come to by working with them.

## Main results

* `Chip8.Machine.Built.clocks_eq` — where the clocks of a machine come from.
* `Chip8.Machine.Built.ticking` — they have time between their ticks.
-/

namespace Chip8

/-! ## Where the intervals come from -/

namespace Config

lemma firstZero_eq_none {cycle delay sound : Nat} :
    firstZero cycle delay sound = none ↔ cycle ≠ 0 ∧ delay ≠ 0 ∧ sound ≠ 0 := by
  simp [firstZero]

/-- A configuration makes sense when no interval is zero. -/
lemma validate_eq_ok {c : Config} :
    c.validate = .ok () ↔ c.cycle ≠ 0 ∧ c.delay ≠ 0 ∧ c.sound ≠ 0 := by
  rw [← firstZero_eq_none, validate]
  cases firstZero c.cycle c.delay c.sound <;> simp

/-- A configuration that makes sense leaves time between the ticks of every clock. -/
lemma ticking_of_validate {c : Config} (h : c.validate = .ok ()) :
    (Clocks.ofConfig c).Ticking := by
  obtain ⟨hcycle, hdelay, hsound⟩ := validate_eq_ok.mp h
  intro t
  cases t with
  | delay => exact Nat.pos_of_ne_zero hdelay
  | sound => exact Nat.pos_of_ne_zero hsound
  | cycle => exact Nat.pos_of_ne_zero hcycle

end Config

namespace Machine

variable {δ : Type}

/-- A machine is created when its configuration makes sense, and then with nothing done yet. -/
lemma create_eq_ok {config : Config} {devices : δ} {m : Machine δ}
    (h : create config devices = .ok m) : config.validate = .ok () ∧
      m = ⟨⟨.powerOn, .powerOn, devices⟩, .ofConfig config, false, 0⟩ := by
  simp only [create, bind, Except.bind] at h
  split at h
  · cases h
  · rename_i hvalid
    split at h
    · cases h
    · cases h
      exact ⟨hvalid, rfl⟩

lemma ticking_start {m : Machine δ} (hm : m.clocks.Ticking) (now : Nat) :
    (start now m).state.clocks.Ticking := by
  intro t
  change 0 < ((m.clocks.started now).get t).interval
  rw [Clocks.interval_started]
  exact hm t

variable [Devices δ]

@[simp]
lemma clocks_stop (m : Machine δ) : (stop m).state.clocks = m.clocks.stopped := by
  rcases Action.state_bind (onClocks Clocks.stop) (fun _ => silence) m with h | ⟨_, h⟩
  · exact congrArg Machine.clocks h
  · exact (congrArg Machine.clocks h).trans (aside_clocks.offstage.keeps_silence _)

/-! ## Being built -/

/-- The machines that can exist: a machine is created, and worked with by any of its actions, with
any outcome, and by changes to its processor and its devices from outside. -/
inductive Built : Machine δ → Prop where
  | create {config : Config} {devices : δ} {m : Machine δ} :
      Machine.create config devices = .ok m → Built m
  | load {m : Machine δ} (feed : Feed) : Built m → Built (load feed m).state
  | cycle {m : Machine δ} : Built m → Built (cycle m).state
  | delayTick {m : Machine δ} : Built m → Built (delayTick m).state
  | soundTick {m : Machine δ} : Built m → Built (soundTick m).state
  | start {m : Machine δ} (now : Nat) : Built m → Built (start now m).state
  | stop {m : Machine δ} : Built m → Built (stop m).state
  | advanceTo {m : Machine δ} (now : Nat) : Built m → Built (advanceTo now m).state
  | run {m : Machine δ} {limit : Option Nat} {fuel time : Nat} {o : Outcome (Machine δ) Unit} :
      Built m → m.run? limit fuel = some (time, o) → Built o.state
  | editCpu {m : Machine δ} (f : Cpu → Cpu) : Built m → Built { m with cpu := f m.cpu }
  | editDevices {m : Machine δ} (f : δ → δ) : Built m → Built { m with devices := f m.devices }

/-- The ticks that are handled have been taken off the clocks. -/
lemma Advances.exists_calls {now : Nat} {m : Machine δ} {es : List (Event δ)}
    {o : Outcome (Machine δ) Unit} (h : Advances now m es o) :
    ∃ calls, o.state.clocks = m.clocks.after calls := by
  have hpop {m m' : Machine δ} {p : Tick × Nat} {clocks : Clocks}
      (hp : m.clocks.pop now = some (p, clocks)) (hclocks : m'.clocks = clocks) :
      m'.clocks = m.clocks.after [.pop now] := by
    simp only [Clocks.after, List.foldl_cons, List.foldl_nil, Clocks.serve, hp, hclocks]
  induction h with
  | idle _ => exact ⟨[], rfl⟩
  | fault hp hh => exact ⟨_, hpop hp (clocks_of_handle hh)⟩
  | tick hp hh _ ih =>
    obtain ⟨calls, hcalls⟩ := ih
    refine ⟨.pop now :: calls, hcalls.trans ?_⟩
    rw [hpop hp (clocks_of_handle hh)]
    rfl

/-- **Whatever is done to a machine, its clocks are only started, stopped and asked for ticks.**
They are those of a configuration that makes sense.

**Proof sketch.** Nothing else that is done to a machine reaches its clocks, and a run is a start,
an advance and a stop. -/
theorem Built.clocks_eq {m : Machine δ} (h : Built m) :
    ∃ (config : Config) (calls : List Clocks.Call), config.validate = .ok () ∧
      m.clocks = (Clocks.ofConfig config).after calls := by
  -- more calls after those that there have been
  have hmore {m m' : Machine δ} (hm : ∃ (config : Config) (calls : List Clocks.Call),
      config.validate = .ok () ∧ m.clocks = (Clocks.ofConfig config).after calls)
      (hcalls : m.clocks.Ticking → ∃ later, m'.clocks = m.clocks.after later) :
      ∃ (config : Config) (calls : List Clocks.Call),
        config.validate = .ok () ∧ m'.clocks = (Clocks.ofConfig config).after calls := by
    obtain ⟨config, calls, hvalid, hclocks⟩ := hm
    obtain ⟨later, hlater⟩ := hcalls (hclocks ▸ (Config.ticking_of_validate hvalid).after calls)
    exact ⟨config, calls ++ later, hvalid, by rw [hlater, hclocks, Clocks.after_append]⟩
  induction h with
  | create hcreate =>
    obtain ⟨hvalid, rfl⟩ := create_eq_ok hcreate
    exact ⟨_, [], hvalid, rfl⟩
  | load feed _ ih => exact ih
  | cycle _ ih => rw [clocks_cycle]; exact ih
  | delayTick _ ih => rw [aside_clocks.keeps_delayTick]; exact ih
  | soundTick _ ih => rw [aside_clocks.keeps_soundTick]; exact ih
  | start now _ ih => exact hmore ih fun _ => ⟨[.start now], rfl⟩
  | stop _ ih => exact hmore ih fun _ => ⟨[.stop], clocks_stop _⟩
  | advanceTo now _ ih => exact hmore ih fun hm => (advances_advanceTo hm now).exists_calls
  | run _ hrun ih =>
    refine hmore ih fun hm => ?_
    obtain ⟨body, hbody, hstate, -⟩ := run?_eq_some hrun
    have hstart := ticking_start hm 0
    obtain ⟨-, hend, -, -⟩ := runFrom?_eq hstart hbody
    obtain ⟨calls, hcalls⟩ := (advances_advanceTo hstart _).exists_calls
    refine ⟨[.start 0] ++ calls ++ [.stop], ?_⟩
    rw [hstate, clocks_stop, hend, hcalls, Clocks.after_append, Clocks.after_append]
    rfl
  | editCpu f _ ih => exact ih
  | editDevices f _ ih => exact ih

/-- **Every machine has time between its ticks**, whatever has been done to it since it was
created: a configuration with a zero interval is refused, and no interval changes later. -/
theorem Built.ticking {m : Machine δ} (h : Built m) : m.clocks.Ticking := by
  obtain ⟨config, calls, hvalid, hclocks⟩ := h.clocks_eq
  rw [hclocks]
  exact (Config.ticking_of_validate hvalid).after calls

/-! ## A machine at hand -/

/-- Quick clocks: an instruction at every time, and the picture at every second. -/
def benchConfig : Config := ⟨1, 2, 3, none⟩

/-- Devices that never have anything to tell, and a screen that fails the second time it is
used. -/
def benchDevices : Panel Scripted.Screen Scripted.Keys Scripted.Buzzer Replay :=
  ⟨.ofFrame .standard (· == 2),
    .ofSwitches .none [] fun _ => false, .ofFailing fun _ => false, .ofList []⟩

/-- A machine that has just been created. -/
def fresh : Machine (Panel Scripted.Screen Scripted.Keys Scripted.Buzzer Replay) :=
  ⟨⟨.powerOn, .powerOn, benchDevices⟩, .ofConfig benchConfig, false, 0⟩

lemma create_fresh : create benchConfig benchDevices = .ok fresh := rfl

/-- A machine with a program that waits for a key for ever. -/
def bench : Machine (Panel Scripted.Screen Scripted.Keys Scripted.Buzzer Replay) :=
  (load (.ofList [0xf0, 0x0a])
    ⟨⟨.powerOn, .powerOn, benchDevices⟩, .ofConfig benchConfig, false, 0⟩).state

lemma built_bench : bench.Built := .load _ (.create create_fresh)

end Machine

end Chip8
