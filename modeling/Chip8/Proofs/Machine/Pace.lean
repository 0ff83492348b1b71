import Mathlib.Control.Monad.Basic
import Chip8.Proofs.Machine.Built

set_option autoImplicit false
set_option relaxedAutoImplicit false

/-!
# The pace of a run

A machine that runs by itself up to a number of instructions gets there, whatever its program and
its devices do, and it keeps time exactly: it never sleeps past a tick, and never deals with one
before it is due.

## Main definitions

* `Chip8.Machine.Paced` — the machine has kept time so far.

## Main results

* `Chip8.Machine.Paced.tick` — one tick is handled on time and keeps the pace.
* `Chip8.Machine.Paced.advances` — all that are due.
* `Chip8.Machine.Paced.sleep` — no sleep is empty, and none goes past a tick.
* `Chip8.Machine.run_paced` — a whole run with a limit.
-/

namespace Chip8

namespace Machine

variable {δ : Type}

/-- The machine has kept time up to `now`, since its clocks were started at zero with `count`
instructions done: nothing is overdue, and the next instruction is due one `interval` after zero
for each instruction since and for itself. -/
structure Paced (count interval now : Nat) (m : Machine δ) : Prop where
  /-- There is time between the ticks. -/
  ticking : m.clocks.Ticking
  /-- Every clock runs, and none is late. -/
  punctual : ∀ t, ∃ due, (m.clocks.get t).due = some due ∧ now ≤ due
  /-- The clock of the instructions has not been changed. -/
  interval_eq : (m.clocks.get .cycle).interval = interval
  /-- The clock of the instructions and their number go together. -/
  counted : ∃ k, m.cycles = count + k ∧ (m.clocks.get .cycle).due = some ((k + 1) * interval)

variable {count interval now due limit : Nat} {m m' : Machine δ}

/-- A machine whose clocks are started at zero keeps time. -/
lemma paced_start (hm : m.clocks.Ticking) (hstopped : m.isRunning = false) :
    Paced m.cycles m.clocks.cycle.interval 0 (start 0 m).state := by
  have hdue : ∀ t, ((m.clocks.started 0).get t).due = some (0 + (m.clocks.get t).interval) :=
    fun t => Clocks.due_started (Clocks.due_of_isRunning_eq_false hstopped t) 0
  refine ⟨ticking_start hm 0, fun t => ⟨_, hdue t, Nat.zero_le _⟩, ?_, 0, rfl, ?_⟩
  · exact Clocks.interval_started m.clocks 0 .cycle
  · have hfirst : (0 + 1) * m.clocks.cycle.interval = 0 + m.clocks.cycle.interval := by omega
    rw [hfirst]
    exact hdue .cycle

namespace Paced

/-! ## Being on time -/

/-- A tick that is taken is on time. -/
lemma due_eq (h : Paced count interval now m) {t : Tick} {clocks : Clocks}
    (hp : m.clocks.pop now = some ((t, due), clocks)) : due = now := by
  obtain ⟨hdue, hle, -, -⟩ := Clocks.pop_eq_some hp
  obtain ⟨due', hdue', hlate⟩ := h.punctual t
  obtain rfl : due = due' := Option.some.inj (hdue.symm.trans hdue')
  omega

lemma interval_pos (h : Paced count interval now m) : 0 < interval :=
  h.interval_eq ▸ h.ticking .cycle

/-- The next instruction is not overdue. -/
lemma now_le_next (h : Paced count interval now m) :
    ∃ k, m.cycles = count + k ∧ now ≤ (k + 1) * interval := by
  obtain ⟨k, hk, hnext⟩ := h.counted
  obtain ⟨due, hdue, hle⟩ := h.punctual .cycle
  obtain rfl : (k + 1) * interval = due := Option.some.inj (hnext.symm.trans hdue)
  exact ⟨k, hk, hle⟩

/-- While instructions are missing, it is not later than the time of the last of them. -/
lemma now_le (h : Paced count interval now m) (hlimit : m.cycles < limit) :
    now ≤ (limit - count) * interval := by
  obtain ⟨k, hk, hle⟩ := h.now_le_next
  have hmul : (k + 1) * interval ≤ (limit - count) * interval :=
    Nat.mul_le_mul_right interval (by omega)
  omega

/-- The limit is met exactly, and at its time: instructions are done one at a time, and the last
of them is done now unless none was missing. -/
lemma limit_met (h : Paced count interval now m)
    (hmissing : now = 0 ∧ m.cycles = count ∨ m.cycles < limit)
    (hcount : m'.cycles = m.cycles ∨ ∃ k, m'.cycles = count + k ∧ k * interval = now)
    (hreached : limit ≤ m'.cycles) :
    m'.cycles = max count limit ∧ now = (limit - count) * interval := by
  have hpos := h.interval_pos
  obtain ⟨k, hk, hle⟩ := h.now_le_next
  rcases hmissing with ⟨rfl, hbegin⟩ | hless
  · -- the clocks have just been started, and no instruction has been done
    have hnone : m'.cycles = count := by
      rcases hcount with hsame | ⟨k', hk', hnow⟩
      · exact hsame.trans hbegin
      · rcases Nat.mul_eq_zero.mp hnow with rfl | hzero
        · exact hk'
        · omega
    have hdone : limit - count = 0 := by omega
    rw [hdone, Nat.zero_mul]
    omega
  · rcases hcount with hsame | ⟨k', hk', hnow⟩
    · omega
    · have hone : k' ≤ k + 1 := Nat.le_of_mul_le_mul_right (hnow ▸ hle) hpos
      obtain rfl : k' = limit - count := by omega
      exact ⟨by omega, hnow.symm⟩

/-! ## Sleeps -/

/-- When no tick is due any more, the next one is due later than now, and no later than any
other. -/
lemma exists_deadline (h : Paced count interval now m) (hp : m.clocks.pop now = none) :
    ∃ next, m.deadline = some next ∧ now < next ∧
      ∀ t due, (m.clocks.get t).due = some due → next ≤ due := by
  obtain ⟨due, hdue, -⟩ := h.punctual .cycle
  have hrunning : m.clocks.isRunning = true :=
    Clocks.isRunning_iff.mpr ⟨.cycle, Option.isSome_iff_exists.mpr ⟨due, hdue⟩⟩
  exact Clocks.exists_deadline hrunning hp

/-- **No sleep is empty, and none goes past a tick.** -/
theorem sleep (h : Paced count interval now m) (hp : m.clocks.pop now = none) :
    0 < m.idle now ∧ Paced count interval (now + m.idle now) m := by
  obtain ⟨next, hnext, hlt, hfirst⟩ := h.exists_deadline hp
  have hidle : m.idle now = min (next - now) maxIdle := by
    rw [idle, hnext]
  have hmax : 0 < maxIdle := by decide
  refine ⟨by omega, h.ticking, fun t => ?_, h.interval_eq, h.counted⟩
  obtain ⟨due, hdue, -⟩ := h.punctual t
  have hle := hfirst t due hdue
  exact ⟨due, hdue, by omega⟩

/-! ## Handling ticks -/

variable [Devices δ]

/-- **One tick keeps the pace.** If it is an instruction, it is the one that is to be done now. -/
theorem tick (h : Paced count interval now m) {t : Tick} {clocks : Clocks} {ns : List Notice}
    (hp : m.clocks.pop now = some ((t, due), clocks))
    (hh : handle t { m with clocks := clocks } = ⟨m', .ok (), ns⟩) :
    Paced count interval now m' ∧
      (m'.cycles = m.cycles ∨ ∃ k, m'.cycles = count + k ∧ k * interval = now) := by
  obtain ⟨hdue, -, rfl, -⟩ := Clocks.pop_eq_some hp
  obtain rfl := h.due_eq hp
  have hclocks := clocks_of_handle hh
  have hcycles := cycles_handle hh
  obtain ⟨k, hk, hnext⟩ := h.counted
  have hpunctual : ∀ u, ∃ d, (m'.clocks.get u).due = some d ∧ due ≤ d := by
    intro u
    rw [hclocks, Clocks.get_set]
    split
    · exact ⟨_, Clock.tick_due hdue, Nat.le_add_right _ _⟩
    · exact h.punctual u
  have hinterval : (m'.clocks.get .cycle).interval = interval := by
    rw [hclocks, Clocks.interval_set_tick]
    exact h.interval_eq
  have hticking : m'.clocks.Ticking := hclocks ▸ h.ticking.set_tick t
  by_cases hcycle : t = .cycle
  · -- the instruction that was due moves both the count and its clock on by one
    subst hcycle
    have hnow : (k + 1) * interval = due := Option.some.inj (hnext.symm.trans hdue)
    have hcount : m'.cycles = count + (k + 1) := by
      rw [hcycles, if_pos rfl]
      change m.cycles + 1 = _
      omega
    refine ⟨⟨hticking, hpunctual, hinterval, k + 1, hcount, ?_⟩, .inr ⟨k + 1, hcount, hnow⟩⟩
    rw [hclocks, Clocks.get_set, if_pos rfl, Clock.tick_due hdue, h.interval_eq,
      Nat.succ_mul (k + 1), hnow]
  · have hsame : m'.cycles = m.cycles := by
      rw [hcycles, if_neg hcycle]
      rfl
    refine ⟨⟨hticking, hpunctual, hinterval, k, hsame.trans hk, ?_⟩, .inl hsame⟩
    rw [hclocks, Clocks.get_set, if_neg hcycle]
    exact hnext

/-- **Every tick that is due keeps the pace**, and is on time. If there is an instruction among
them, it is the one that is to be done now.

**Proof sketch.** Induction on the ticks. -/
theorem advances (h : Paced count interval now m) {es : List (Event δ)}
    {o : Outcome (Machine δ) Unit} (ha : Advances now m es o) :
    (∀ e ∈ es, e.due = now) ∧
      (o.result = .ok () → Paced count interval now o.state ∧
        (o.state.cycles = m.cycles ∨ ∃ k, o.state.cycles = count + k ∧ k * interval = now)) := by
  induction ha with
  | idle _ =>
    refine ⟨fun e he => ?_, fun _ => ⟨h, .inl rfl⟩⟩
    cases he
  | fault hp hh =>
    refine ⟨fun e he => ?_, fun ho => by cases ho⟩
    obtain rfl := List.mem_singleton.mp he
    exact h.due_eq hp
  | tick hp hh _ ih =>
    obtain ⟨hpace, hcount⟩ := h.tick hp hh
    obtain ⟨hdue, hrest⟩ := ih hpace
    refine ⟨fun e he => ?_, fun ho => ?_⟩
    · rcases List.mem_cons.mp he with rfl | he
      · exact h.due_eq hp
      · exact hdue e he
    · obtain ⟨hend, hcount'⟩ := hrest ho
      refine ⟨hend, ?_⟩
      rcases hcount' with hsame | hnow
      · rw [hsame]
        exact hcount
      · exact .inr hnow

/-- Waking up and going to sleep again keeps the pace, with instructions still missing. -/
lemma wake {pause : Nat} {ns : List Notice} (h : Paced count interval now m)
    (hw : Machine.wake (some limit) now m = ⟨m', .ok (some pause), ns⟩) :
    0 < pause ∧ Paced count interval (now + pause) m' ∧ m'.cycles < limit := by
  obtain ⟨ha, rfl, -, hreached⟩ := wake_eq_some hw
  have hadv := advances_advanceTo h.ticking now
  rw [ha] at hadv
  obtain ⟨-, hend⟩ := h.advances hadv
  obtain ⟨hpace, -⟩ := hend rfl
  obtain ⟨hpos, hnext⟩ := hpace.sleep (hadv.pop_eq_none rfl)
  refine ⟨hpos, hnext, ?_⟩
  simpa [reached] using hreached

/-! ## Runs -/

/-- **The run ends.** Every sleep takes time, and there is no more of it than the missing
instructions take.

**Proof sketch.** Induction on the number of times the machine may wake up, which exceeds the time
that is left. -/
theorem isSome_runFrom {fuel : Nat} (h : Paced count interval now m)
    (hfuel : (limit - count) * interval - now < fuel) :
    (runFrom? (some limit) fuel now m).isSome := by
  induction fuel generalizing now m with
  | zero => omega
  | succ fuel ih =>
    rw [runFrom?]
    rcases hw : Machine.wake (some limit) now m with ⟨m', fault | _ | pause, ns⟩
    · rfl
    · rfl
    · obtain ⟨hpos, hpace, hmissing⟩ := h.wake hw
      have hnow := hpace.now_le hmissing
      have hrest : (runFrom? (some limit) fuel (now + pause) m').isSome :=
        ih hpace (by omega)
      simpa using hrest

/-- **Every tick of the run is on time.** -/
theorem due_eq_of_mem {fuel : Nat} (h : Paced count interval now m) {w : Wakeup δ}
    (hw : w ∈ wakeUpsFrom (some limit) fuel now m) {e : Event δ} (he : e ∈ w.events) :
    e.due = w.time := by
  induction fuel generalizing now m with
  | zero => cases hw
  | succ fuel ih =>
    rw [wakeUpsFrom] at hw
    rcases List.mem_cons.mp hw with rfl | hrest
    · obtain ⟨hdue, -⟩ := h.advances (advances_advanceTo h.ticking now)
      exact hdue e he
    · rcases hwake : Machine.wake (some limit) now m with ⟨m', fault | _ | pause, ns⟩ <;>
        rw [hwake] at hrest
      · cases hrest
      · cases hrest
      · obtain ⟨-, hpace, -⟩ := h.wake hwake
        exact ih hpace hrest

/-- **The run does what is missing, and takes the time that it takes**, unless it ends early.

**Proof sketch.** Induction on the number of times of waking up. The number of instructions passes
the limit at an instruction, whose time is known, and one at a time. -/
theorem exact_of_runFrom {fuel time : Nat} {o : Outcome (Machine δ) Unit}
    (h : Paced count interval now m) (hmissing : now = 0 ∧ m.cycles = count ∨ m.cycles < limit)
    (hrun : runFrom? (some limit) fuel now m = some (time, o)) (ho : o.result = .ok ())
    (hquit : ∀ w ∈ wakeUpsFrom (some limit) fuel now m, w.quits = false) :
    o.state.cycles = max count limit ∧ time = (limit - count) * interval := by
  induction fuel generalizing now m o with
  | zero => cases hrun
  | succ fuel ih =>
    rw [runFrom?] at hrun
    rw [wakeUpsFrom] at hquit
    rcases hw : Machine.wake (some limit) now m with ⟨m', fault | _ | pause, ns⟩ <;>
      rw [hw] at hrun hquit <;> simp only at hrun hquit
    · cases hrun
      cases ho
    · -- the machine does not want to leave, so enough has been done
      obtain ⟨⟨ns₁, ha⟩, hend⟩ := wake_eq_none hw
      have hstay : Keypad.quitRequested m'.devices = false := by
        have hhead := hquit _ List.mem_cons_self
        rw [Wakeup.quits, ha] at hhead
        exact hhead
      have hreached : limit ≤ m'.cycles := by
        rcases hend with hleave | henough
        · rw [hstay] at hleave
          cases hleave
        · simpa [reached] using henough
      have hadv := advances_advanceTo h.ticking now
      rw [ha] at hadv
      obtain ⟨-, hpace⟩ := h.advances hadv
      obtain ⟨-, hcount⟩ := hpace rfl
      cases hrun
      exact h.limit_met hmissing hcount hreached
    · obtain ⟨-, hpace, hless⟩ := h.wake hw
      obtain ⟨⟨time', o'⟩, hrest, heq⟩ := Option.map_eq_some_iff.mp hrun
      cases heq
      have hend : o'.state.cycles = max count limit ∧ time' = (limit - count) * interval :=
        ih hpace (.inr hless) hrest ho fun w hmem => hquit w (List.mem_cons_of_mem _ hmem)
      exact hend

end Paced

variable [Devices δ]

@[simp]
lemma cycles_stop (m : Machine δ) : (stop m).state.cycles = m.cycles := by
  have hkeep : Action.Keeps Machine.cycles (stop (δ := δ)) :=
    .bind (.zoom fun _ _ => rfl) fun _ => aside_cycles.offstage.keeps_silence
  exact hkeep m

/-- **A run with a limit ends, on time.** The clocks are stopped before. However the program goes
on and whatever the devices do, the run is over after finitely many times of waking up: never more
than the missing instructions take time, and one. Every tick that is handled is handled at the time
at which it is due. Unless the run fails or the user wants to leave, it ends with as many
instructions as the limit says, or as there were if there were more, and never with any beyond; the
time it has taken is the interval of the instruction clock for every instruction that was missing,
and none if none was.

**Proof sketch.** The machine keeps time: nothing is overdue, and the next instruction is due one
interval for each of those before it, and for itself, after the beginning. Every tick and every
sleep keeps that up. -/
theorem run_paced {m : Machine δ} (hm : m.Built) (hstopped : m.isRunning = false) (limit : Nat) :
    (∀ fuel, (limit - m.cycles) * m.clocks.cycle.interval < fuel →
      (m.run? (some limit) fuel).isSome) ∧
    ∀ fuel time o, m.run? (some limit) fuel = some (time, o) →
      (∀ w ∈ wakeUps (some limit) fuel m, ∀ e ∈ w.events, e.due = w.time) ∧
      (o.result = .ok () → (∀ w ∈ wakeUps (some limit) fuel m, w.quits = false) →
        o.state.cycles = max m.cycles limit ∧
        time = (limit - m.cycles) * m.clocks.cycle.interval) := by
  have hpace := paced_start hm.ticking hstopped
  constructor
  · intro fuel hfuel
    have hbody : (runFrom? (some limit) fuel 0 (start 0 m).state).isSome :=
      hpace.isSome_runFrom (by omega)
    rw [run?, Option.isSome_map]
    exact hbody
  · intro fuel time o h
    obtain ⟨body, hbody, hstate, hresult⟩ := run?_eq_some h
    refine ⟨fun w hw e he => hpace.due_eq_of_mem hw he, fun ho hquit => ?_⟩
    have hok : body.result = .ok () := by
      rw [ho] at hresult
      cases hstop : (stop body.state).result with
      | error fault =>
        rw [hstop] at hresult
        cases hresult
      | ok =>
        rw [hstop] at hresult
        exact hresult.symm
    rw [hstate, cycles_stop]
    exact hpace.exact_of_runFrom (.inl ⟨rfl, rfl⟩) hbody hok hquit

/-- A program that waits for a key for ever, with a limit of three instructions. -/
theorem run_paced_bench :
    ∃ o, bench.run? (some 3) 4 = some (3, o) ∧ o.result = .ok () ∧ o.state.cycles = 3 ∧
      ∀ w ∈ wakeUps (some 3) 4 bench, ∀ e ∈ w.events, e.due = w.time := by
  obtain ⟨hends, hexact⟩ := run_paced built_bench rfl 3
  obtain ⟨⟨time, o⟩, ho⟩ := Option.isSome_iff_exists.mp (hends 4 (by decide +kernel))
  obtain ⟨hontime, hmet⟩ := hexact 4 time o ho
  have hresult : o.result = .ok () := by
    have hrun : (bench.run? (some 3) 4).map (·.2.result) = some (.ok ()) := by decide +kernel
    rw [ho] at hrun
    exact Option.some.inj hrun
  have hquit : ∀ w ∈ wakeUps (some 3) 4 bench, w.quits = false := by decide +kernel
  obtain ⟨hcycles, htime⟩ := hmet hresult hquit
  obtain rfl : time = 3 := htime
  exact ⟨o, ho, hresult, hcycles, hontime⟩

end Machine

end Chip8
