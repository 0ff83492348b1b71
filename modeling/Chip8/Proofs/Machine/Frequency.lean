import Chip8.Proofs.Instruction.Table
import Chip8.Proofs.Machine.Built

set_option autoImplicit false
set_option relaxedAutoImplicit false

/-!
# Clocks given by their frequencies

The interval of a clock is counted in whole nanoseconds and rounded down. So the interval of a clock
that is to tick more often than once a nanosecond would be zero. Such a frequency is accepted when
the configuration is put together, as only a frequency of zero is refused there; but the
configuration makes no sense, and no machine is created with it. With all other frequencies a
machine is created, and its clocks go on for ever.

## Main definitions

* `Chip8.Config.Measures` — an interval goes with a frequency.
* `Chip8.Machine.Progresses` — the machine gets on, whatever its devices do.

## Main results

* `Chip8.Config.validate_ofFrequencies` — which frequencies make sense.
* `Chip8.Machine.progresses_of_ticking` — with time between its ticks a machine gets on.
* `Chip8.Machine.create_ofFrequencies` — machines with clocks given by their frequencies.
-/

namespace Chip8

/-! ## Intervals -/

namespace Config

/-- As many whole nanoseconds as fit between two ticks, if there are so many ticks a second. -/
def Measures (interval frequency : Nat) : Prop :=
  interval * frequency ≤ Duration.second ∧ Duration.second < (interval + 1) * frequency

lemma measures_intervalOf {frequency : Nat} (h : frequency ≠ 0) :
    Measures (intervalOf frequency) frequency := by
  refine ⟨Nat.div_mul_le_self _ _, ?_⟩
  rw [Nat.mul_comm]
  exact Nat.lt_mul_div_succ _ (Nat.pos_of_ne_zero h)

/-- An interval is zero if its frequency is too high. -/
lemma intervalOf_ne_zero_iff {frequency : Nat} (h : frequency ≠ 0) :
    intervalOf frequency ≠ 0 ↔ frequency ≤ Duration.second := by
  rw [intervalOf, ← Nat.pos_iff_ne_zero, Nat.div_pos_iff]
  exact and_iff_right (Nat.pos_of_ne_zero h)

variable {cycle delay sound : Nat} {config : Config}

/-- Frequencies are accepted unless one of them is zero. -/
lemma ofFrequencies_eq_ok : ofFrequencies cycle delay sound = .ok config ↔
    (cycle ≠ 0 ∧ delay ≠ 0 ∧ sound ≠ 0) ∧
      config = ⟨intervalOf cycle, intervalOf delay, intervalOf sound, none⟩ := by
  rw [← firstZero_eq_none, ofFrequencies]
  cases firstZero cycle delay sound <;> simp [eq_comm]

/-- **The frequencies that make sense** are those of up to one tick a nanosecond. -/
lemma validate_ofFrequencies (h : ofFrequencies cycle delay sound = .ok config) :
    config.validate = .ok () ↔
      cycle ≤ Duration.second ∧ delay ≤ Duration.second ∧ sound ≤ Duration.second := by
  obtain ⟨⟨hcycle, hdelay, hsound⟩, rfl⟩ := ofFrequencies_eq_ok.mp h
  rw [validate_eq_ok, intervalOf_ne_zero_iff hcycle, intervalOf_ne_zero_iff hdelay,
    intervalOf_ne_zero_iff hsound]

end Config

/-! ## Getting on -/

namespace Machine

variable {δ : Type}

/-- A machine is created when its configuration makes sense. -/
lemma exists_create_iff {config : Config} (devices : δ) :
    (∃ m, create config devices = .ok m) ↔ config.validate = .ok () := by
  constructor
  · rintro ⟨m, hm⟩
    exact (create_eq_ok hm).1
  · intro hvalid
    exact ⟨_, by rw [create, hvalid, Table.check_standard]; rfl⟩

variable [Devices δ]

/-- The machine gets on, whatever its program and its devices do. -/
structure Progresses (m : Machine δ) : Prop where
  /-- After each tick of a clock its next one is due later. -/
  later : ∀ now t due clocks, m.clocks.pop now = some ((t, due), clocks) →
    ∃ next, (clocks.get t).due = some next ∧ due < next
  /-- A machine that has advanced to a time is waiting for a tick after that time. -/
  awaits : ∀ now, m.isRunning = true → (advanceTo now m).result = .ok () →
    ∃ next, (advanceTo now m).state.deadline = some next ∧ now < next
  /-- A machine that has failed on the way has fewer ticks to deal with than before. -/
  fewer : ∀ now, (advanceTo now m).result ≠ .ok () →
    (advanceTo now m).state.clocks.dueCount now < m.clocks.dueCount now

namespace Advances

variable {now : Nat} {m : Machine δ} {es : List (Event δ)} {o : Outcome (Machine δ) Unit}

/-- Clocks that run go on when the machine has advanced. -/
lemma isRunning_get (h : Advances now m es o) (u : Tick) :
    (o.state.clocks.get u).isRunning = (m.clocks.get u).isRunning := by
  have hpop {m m' : Machine δ} {t : Tick} {due : Nat} {clocks : Clocks}
      (hp : m.clocks.pop now = some ((t, due), clocks)) (hclocks : m'.clocks = clocks) :
      (m'.clocks.get u).isRunning = (m.clocks.get u).isRunning := by
    obtain ⟨-, -, rfl, -⟩ := Clocks.pop_eq_some hp
    rw [hclocks, Clocks.isRunning_set_tick]
  induction h with
  | idle _ => rfl
  | fault hp hh => exact hpop hp (clocks_of_handle hh)
  | tick hp hh _ ih => exact ih.trans (hpop hp (clocks_of_handle hh))

/-- The tick that fails is no longer due. -/
lemma dueCount_lt (h : Advances now m es o) (hm : m.clocks.Ticking) (ho : o.result ≠ .ok ()) :
    o.state.clocks.dueCount now < m.clocks.dueCount now := by
  induction h with
  | idle _ => exact absurd rfl ho
  | fault hp hh =>
    rw [Clocks.dueCount_pop hm hp, clocks_of_handle hh]
    exact Nat.lt_succ_self _
  | tick hp hh _ ih =>
    have hclocks := clocks_of_handle hh
    have hless := ih (hclocks ▸ hm.pop hp) ho
    rw [hclocks] at hless
    rw [Clocks.dueCount_pop hm hp]
    exact Nat.lt_succ_of_lt hless

end Advances

/-- **With time between its ticks a machine gets on.** -/
lemma progresses_of_ticking {m : Machine δ} (hm : m.clocks.Ticking) : m.Progresses where
  later now t due clocks hp := by
    obtain ⟨hdue, -, rfl, -⟩ := Clocks.pop_eq_some hp
    refine ⟨due + (m.clocks.get t).interval, ?_, Nat.lt_add_of_pos_right (hm t)⟩
    rw [Clocks.get_set, if_pos rfl, Clock.tick_due hdue]
  awaits now hrunning hok := by
    have hadvances := advances_advanceTo hm now
    obtain ⟨t, ht⟩ := Clocks.isRunning_iff.mp hrunning
    have hstill := Clocks.isRunning_iff.mpr ⟨t, (hadvances.isRunning_get t).trans ht⟩
    obtain ⟨next, hnext, hlater, -⟩ :=
      Clocks.exists_deadline hstill (hadvances.pop_eq_none hok)
    exact ⟨next, hnext, hlater⟩
  fewer now hfail := (advances_advanceTo hm now).dueCount_lt hm hfail

/-! ## Machines -/

/-- **Machines with clocks given by their frequencies.** Frequencies are accepted unless one of them
is zero, and the intervals are as long as they fit. The configuration makes sense if no frequency is
above one tick a nanosecond, and a machine is created then and only then. Whatever is done to that
machine later, by which its clocks are started, stopped and asked for ticks, it gets on.

**Proof sketch.** A second divided by a frequency is rounded down to zero if the frequency is more
than the nanoseconds of a second. Otherwise there is time between the ticks, and nothing takes it
away. -/
theorem create_ofFrequencies (cycle delay sound : Nat) :
    ((∃ config, Config.ofFrequencies cycle delay sound = .ok config) ↔
      cycle ≠ 0 ∧ delay ≠ 0 ∧ sound ≠ 0) ∧
    ∀ config, Config.ofFrequencies cycle delay sound = .ok config →
      let sensible := cycle ≤ Duration.second ∧ delay ≤ Duration.second ∧ sound ≤ Duration.second
      (Config.Measures config.cycle cycle ∧ Config.Measures config.delay delay ∧
        Config.Measures config.sound sound) ∧
      (config.validate = .ok () ↔ sensible) ∧
      ∀ devices : δ, ((∃ m, create config devices = .ok m) ↔ sensible) ∧
        ∀ m, create config devices = .ok m → ∀ (calls : List Clocks.Call) (m' : Machine δ),
          m'.clocks = m.clocks.after calls → m'.Progresses := by
  constructor
  · simp only [Config.ofFrequencies_eq_ok]
    exact ⟨fun ⟨_, h, _⟩ => h, fun h => ⟨_, h, rfl⟩⟩
  intro config hconfig sensible
  have hvalid := Config.validate_ofFrequencies hconfig
  refine ⟨?_, hvalid, fun devices => ⟨(exists_create_iff devices).trans hvalid, ?_⟩⟩
  · obtain ⟨⟨hcycle, hdelay, hsound⟩, rfl⟩ := Config.ofFrequencies_eq_ok.mp hconfig
    exact ⟨Config.measures_intervalOf hcycle, Config.measures_intervalOf hdelay,
      Config.measures_intervalOf hsound⟩
  · intro m hm calls m' hclocks
    obtain ⟨hmakes, rfl⟩ := create_eq_ok hm
    apply progresses_of_ticking
    rw [hclocks]
    exact (Config.ticking_of_validate hmakes).after calls

/-- The clock of the sound timer ticks at every nanosecond, and the clocks are started. -/
theorem create_ofFrequencies_highest :
    ∃ config, Config.ofFrequencies 500 60 1000000000 = .ok config ∧
      Config.Measures config.sound 1000000000 ∧
      ∃ m, create config benchDevices = .ok m ∧
        (start 7 m).state.clocks = m.clocks.after [.start 7] ∧ (start 7 m).state.Progresses := by
  obtain ⟨haccepted, hall⟩ :=
    @create_ofFrequencies (Panel Scripted.Screen Scripted.Keys Scripted.Buzzer Replay) _
      500 60 1000000000
  obtain ⟨config, hconfig⟩ := haccepted.mpr (by decide)
  obtain ⟨⟨-, -, hsound⟩, -, hcreate⟩ := hall config hconfig
  obtain ⟨hexists, hprogress⟩ := hcreate benchDevices
  obtain ⟨m, hm⟩ := hexists.mpr (by decide)
  exact ⟨config, hconfig, hsound, m, hm, rfl, hprogress m hm [.start 7] _ rfl⟩

/-- Two instructions a nanosecond are accepted as a frequency of 32 bits, but leave no time between
them, so that no machine is created. -/
theorem not_created_of_two_gigahertz :
    2000000000 < 2 ^ 32 ∧ ∃ config, Config.ofFrequencies 2000000000 60 60 = .ok config ∧
      config.validate = .error (.invalid (.zeroInterval .cycle)) ∧
      create config benchDevices = .error (.invalid (.zeroInterval .cycle)) :=
  ⟨by decide, _, rfl, rfl, rfl⟩

end Machine

end Chip8
