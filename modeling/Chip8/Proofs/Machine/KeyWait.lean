import Chip8.Proofs.Display.Steady
import Chip8.Proofs.Keypad.Latch
import Chip8.Proofs.Machine.Random

set_option autoImplicit false
set_option relaxedAutoImplicit false

/-!
# Waiting for a key

The instruction that waits for a key is carried out again and again until a press waits to be taken,
while the timers go on. Then it takes the press, once, and the machine moves on.

## Main definitions

* `Chip8.Machine.Awaits` — the next instruction waits for a key.
* `Chip8.Moment` — a tick, or something that befalls the keypad.
* `Chip8.Machine.Stalled`, `Chip8.Machine.Caught` — what comes of waiting in vain, and of a press.
* `Chip8.Machine.Keyed` — a run, with the presses and the instructions that have got one.

## Main results

* `Chip8.Board.execute_waitKey` — the instruction that waits for a key.
* `Chip8.Machine.stalled_moments` — a machine that waits in vain.
* `Chip8.Machine.Keyed.ledger` — each press is got by one instruction at most.
* `Chip8.Machine.waits_for_key` — all of this together.
-/

namespace Chip8

open Keypad (waiting?)

/-! ## The instruction -/

/-- An instruction that waits for a key takes the press that waits and moves on, or does nothing. -/
lemma Board.execute_waitKey {δ : Type} [Devices δ] {i : Instruction} (hi : i.mnemonic = .waitKey)
    (b : Board δ) : execute i b =
      match Keypad.takePressed b.devices with
      | (some key, d) =>
        ⟨{ b with
            devices := d
            cpu := { b.cpu.setV (i.register 0) (UInt8.ofNat key.val) with
              pc := b.cpu.pc + instructionSize } },
          .ok (), [.executing b.cpu.pc i]⟩
      | (none, d) => ⟨{ b with devices := d }, .ok (), [.executing b.cpu.pc i]⟩ := by
  rw [execute_eq]
  simp only [perform, hi, awaitKey]
  rcases Keypad.takePressed b.devices with ⟨_ | key, d⟩ <;> rfl

namespace Machine

section Awaits

variable {δ : Type} [Devices δ] {m m' : Machine δ} {x : Register}

/-- The next instruction waits for a key, which goes to the register `x`. -/
def Awaits (x : Register) (m : Machine δ) : Prop :=
  ∃ word, m.memory.getWord m.cpu.pc = .ok word ∧
    (Table.standard.decode word).mnemonic = .waitKey ∧ (Table.standard.decode word).register 0 = x

omit [Devices δ] in
/-- The program counter and the memory decide what the next instruction is. -/
lemma Awaits.congr (h : m.Awaits x) (hpc : m'.cpu.pc = m.cpu.pc) (hmemory : m'.memory = m.memory) :
    m'.Awaits x := by
  rw [Awaits, hpc, hmemory]
  exact h

/-- What a machine does that waits for a key. -/
lemma Awaits.cycle_eq (h : m.Awaits x) : ∃ i ns, cycle m =
    match Keypad.takePressed m.devices with
    | (some key, d) =>
      ⟨{ m with
          devices := d
          cpu := { m.cpu.setV x (UInt8.ofNat key.val) with pc := m.cpu.pc + instructionSize }
          cycles := m.cycles + 1 },
        .ok i, ns⟩
    | (none, d) => ⟨{ m with devices := d, cycles := m.cycles + 1 }, .ok i, ns⟩ := by
  obtain ⟨word, hword, hi, hx⟩ := h
  refine ⟨Table.standard.decode word, [.executing m.cpu.pc (Table.standard.decode word)], ?_⟩
  rw [Machine.cycle_eq, hword]
  dsimp only
  rw [Board.execute_waitKey hi, hx]
  rcases Keypad.takePressed m.devices with ⟨_ | key, d⟩ <;> rfl

end Awaits

section Panels

variable {D K S R : Type} [Display D] [Keypad K] [Speaker S] [RandomSource R]
  {m : Machine (Panel D K S R)} {x : Register}

lemma timeless_memory {δ : Type} [Devices δ] : Timeless fun m : Machine δ => m.memory where
  cpu _ _ := rfl
  soundOn _ _ := rfl
  present _ := rfl
  poll _ := rfl
  beep _ := rfl
  silence _ := rfl

lemma timeless_picture [Steady D] : Timeless fun m : Machine (Panel D K S R) =>
    (Framed.frame m.devices.display).takeDirty.2 where
  cpu _ _ := rfl
  soundOn _ _ := rfl
  present m := Steady.present_eq m.devices.display
  poll _ := rfl
  beep _ := rfl
  silence _ := rfl

/-- A machine that waits in vain for a moment counts one more instruction. -/
lemma Awaits.turn_of_none (h : m.Awaits x) (hnone : waiting? m.devices.keypad = none) :
    m.turn .cycle =
      { m with
        devices := { m.devices with keypad := (Keypad.takePressed m.devices.keypad).2 }
        cycles := m.cycles + 1 } := by
  obtain ⟨i, ns, hcycle⟩ := h.cycle_eq
  have htake : Keypad.takePressed m.devices =
      (none, { m.devices with keypad := (Keypad.takePressed m.devices.keypad).2 }) := by
    rw [← hnone]
    rfl
  rw [state_turn_cycle, hcycle, htake]

/-- A machine that waits for a key takes the press that waits, and moves on. -/
lemma Awaits.cycle_of_some (h : m.Awaits x) {key : Key}
    (hkey : waiting? m.devices.keypad = some key) : ∃ i ns, cycle m =
      ⟨{ m with
          cpu := { m.cpu.setV x (UInt8.ofNat key.val) with pc := m.cpu.pc + instructionSize }
          devices := { m.devices with keypad := (Keypad.takePressed m.devices.keypad).2 }
          cycles := m.cycles + 1 },
        .ok i, ns⟩ := by
  obtain ⟨i, ns, hcycle⟩ := h.cycle_eq
  have htake : Keypad.takePressed m.devices =
      (some key, { m.devices with keypad := (Keypad.takePressed m.devices.keypad).2 }) := by
    rw [← hkey]
    rfl
  exact ⟨i, ns, by rw [hcycle, htake]⟩

/-- A tick of the sound clock does not touch the keypad. -/
lemma keypad_turn_sound (m : Machine (Panel D K S R)) :
    (m.turn .sound).devices.keypad = m.devices.keypad := by
  have hkeep : Action.Keeps (fun m : Machine (Panel D K S R) => m.devices.keypad) soundTick :=
    keeps_soundTick_of (fun _ _ => rfl) (fun _ _ => rfl) (fun _ => rfl) fun _ => rfl
  exact hkeep m

/-- To stop does not touch the keypad either. -/
lemma keypad_stop (m : Machine (Panel D K S R)) :
    (stop m).state.devices.keypad = m.devices.keypad := by
  have hkeep : Action.Keeps (fun m : Machine (Panel D K S R) => m.devices.keypad) stop :=
    .bind (fun _ => rfl) fun _ => keeps_silence_of (fun _ _ => rfl) fun _ => rfl
  exact hkeep m

/-- A tick of the delay clock looks at the keypad, unless the picture cannot be shown. -/
lemma keypad_turn_delay (m : Machine (Panel D K S R)) :
    (m.turn .delay).devices.keypad =
      if (Display.present m.devices.display).result.isOk then (Keypad.poll m.devices.keypad).state
      else m.devices.keypad := by
  have hturn : m.turn .delay =
      ((do onDevices Display.present; onDevices Keypad.poll : Action (Machine (Panel D K S R)) Unit)
        { m with cpu := m.cpu.tickDelay }).state := rfl
  rw [hturn]
  rcases hpresent : Display.present m.devices.display with ⟨d, fault | ⟨⟩, ns⟩
  · have hshow : onDevices Display.present { m with cpu := m.cpu.tickDelay } =
        ⟨{ m with cpu := m.cpu.tickDelay, devices := { m.devices with display := d } },
          .error fault, ns⟩ := by
      simp only [onDevices, onBoard, Board.onDevices, Action.zoom, Display.present, Panel.onDisplay,
        hpresent]
    rw [Action.bind_of_error hshow]
    rfl
  · have hshow : onDevices Display.present { m with cpu := m.cpu.tickDelay } =
        ⟨{ m with cpu := m.cpu.tickDelay, devices := { m.devices with display := d } },
          .ok (), ns⟩ := by
      simp only [onDevices, onBoard, Board.onDevices, Action.zoom, Display.present, Panel.onDisplay,
        hpresent]
    rw [Action.bind_of_ok hshow]
    rfl

end Panels

end Machine

/-! ## Waiting in vain -/

/-- What can happen to a machine that is left to itself: a tick of one of its clocks, or something
that befalls its keypad. -/
inductive Moment (K : Type) [Keypad K] [Latch K] where
  | tick (t : Tick)
  | befall (e : Latch.Event K)

variable {D K S R : Type} [Display D] [Keypad K] [Latch K] [Speaker S] [RandomSource R]

/-- The tick, if it is one. -/
def Moment.tick? : Moment K → Option Tick
  | .tick t => some t
  | .befall _ => none

/-- The ticks among several moments. -/
def Moment.ticks (as : List (Moment K)) : List Tick := as.filterMap Moment.tick?

namespace Machine

variable {m m₁ : Machine (Panel D K S R)} {x : Register} {as : List (Moment K)}

/-- Something befalls the keypad of the machine. -/
def befall (m : Machine (Panel D K S R)) (e : Latch.Event K) : Machine (Panel D K S R) :=
  { m with devices := { m.devices with keypad := Latch.befall m.devices.keypad e } }

/-- The machine after a moment, whether a tick succeeds or fails. -/
def moment (m : Machine (Panel D K S R)) : Moment K → Machine (Panel D K S R)
  | .tick t => m.turn t
  | .befall e => m.befall e

/-- The machine after several moments. -/
def moments (m : Machine (Panel D K S R)) (as : List (Moment K)) : Machine (Panel D K S R) :=
  as.foldl moment m

lemma moments_concat (m : Machine (Panel D K S R)) (as : List (Moment K)) (a : Moment K) :
    m.moments (as ++ [a]) = (m.moments as).moment a := by
  simp [moments]

/-- While these moments go by, no press waits at a tick of the cycle clock. -/
def InVain (m : Machine (Panel D K S R)) (as : List (Moment K)) : Prop :=
  ∀ before after, as = before ++ .tick .cycle :: after →
    waiting? (m.moments before).devices.keypad = none

lemma inVain_nil (m : Machine (Panel D K S R)) : m.InVain [] := by
  intro before after has
  simp at has

/-- Going by in vain is seen moment by moment. -/
lemma inVain_cons {a : Moment K} : m.InVain (a :: as) ↔
    (a = .tick .cycle → waiting? m.devices.keypad = none) ∧ (m.moment a).InVain as := by
  constructor
  · intro h
    exact ⟨fun ha => h [] as (by rw [ha]; rfl),
      fun before after has => h (a :: before) after (by rw [has]; rfl)⟩
  · rintro ⟨hfirst, hrest⟩ before after has
    rcases before with _ | ⟨b, before⟩
    · cases has
      exact hfirst rfl
    · cases has
      exact hrest before after rfl

/-- What has become of a machine that waits for a key, when none has come. -/
structure Stalled [Steady D] (as : List (Moment K)) (m m' : Machine (Panel D K S R)) : Prop where
  /-- Of the processor no more than the timers has changed. -/
  cpu : m'.cpu = { m.cpu with delay := m'.cpu.delay, sound := m'.cpu.sound }
  memory : m'.memory = m.memory
  /-- The picture is the same, but for the mark for a change that is taken off when it is shown. -/
  picture : (Framed.frame m'.devices.display).takeDirty.2 =
    (Framed.frame m.devices.display).takeDirty.2
  random : m'.devices.random = m.devices.random
  /-- Every instruction has been counted. -/
  cycles : m'.cycles = m.cycles + (Moment.ticks as).count .cycle
  /-- The timers have counted down at their own ticks. -/
  timers : ∀ timer : Timer, (timer.read m'.cpu).toNat =
    (timer.read m.cpu).toNat - (Moment.ticks as).count timer.tick

/-- One more moment of waiting in vain. -/
lemma Stalled.concat [Steady D] (h : Stalled as m m₁) (hm₁ : m₁.Awaits x) (a : Moment K)
    (hnone : a = .tick .cycle → waiting? m₁.devices.keypad = none) :
    Stalled (as ++ [a]) m (m₁.moment a) := by
  obtain ⟨hcpu, hmemory, hpicture, hrandom, hcycles, htimers⟩ := h
  cases a with
  | befall e =>
    have hticks : Moment.ticks (as ++ [.befall e]) = Moment.ticks as := by
      simp [Moment.ticks, Moment.tick?]
    exact ⟨hcpu, hmemory, hpicture, hrandom, hticks ▸ hcycles, hticks ▸ htimers⟩
  | tick t =>
    have hcount (u : Tick) : (Moment.ticks (as ++ [.tick t])).count u =
        (Moment.ticks as).count u + if t = u then 1 else 0 := by
      simp [Moment.ticks, Moment.tick?, List.count_singleton]
    by_cases ht : t = .cycle
    · subst ht
      have hturn := hm₁.turn_of_none (hnone rfl)
      rw [moment, hturn]
      refine ⟨hcpu, hmemory, hpicture, hrandom, ?_, fun timer => ?_⟩
      · rw [hcount, if_pos rfl, ← Nat.add_assoc, ← hcycles]
      · rw [hcount, if_neg (by cases timer <;> decide), Nat.add_zero]
        exact htimers timer
    · have hnothing : m₁.carriedOut t = none := by
        cases t with
        | cycle => exact absurd rfl ht
        | delay | sound => rfl
      refine ⟨?_, (timeless_memory.turn ht m₁).trans hmemory,
        (timeless_picture.turn ht m₁).trans hpicture, (timeless_random.turn ht m₁).trans hrandom,
        ?_, fun timer => ?_⟩
      · cases t with
        | cycle => exact absurd rfl ht
        | delay =>
          rw [moment, cpu_turn_delay, hcpu]
          rfl
        | sound =>
          rw [moment, cpu_turn_sound, hcpu]
          rfl
      · rw [moment, cycles_turn, hnothing, hcycles, hcount, if_neg ht]
        rfl
      · rw [moment, toNat_read_turn timer t (by simp [hnothing]), htimers, hcount, Nat.sub_sub]

/-- **A machine that waits in vain** stands still, but for the timers and the count of instructions.

**Proof sketch.** Induction on the moments from the last one: as nothing has changed that decides
what the next instruction is, the machine still waits, and one more moment makes no difference. -/
theorem stalled_moments [Steady D] (h : m.Awaits x) (hvain : m.InVain as) :
    Stalled as m (m.moments as) := by
  induction as using List.reverseRecOn with
  | nil => exact ⟨rfl, rfl, rfl, rfl, rfl, fun _ => rfl⟩
  | append_singleton as a ih =>
    have hbefore : m.InVain as := by
      intro before after has
      exact hvain before (after ++ [a]) (by simp [has])
    have hstalled := ih hbefore
    have hcpu : (m.moments as).cpu.pc = m.cpu.pc := by rw [hstalled.cpu]
    rw [moments_concat]
    refine hstalled.concat (h.congr hcpu hstalled.memory) a fun ha => ?_
    exact hvain as [] (by rw [ha])

/-! ## A press -/

/-- What comes of an instruction that waits for a key, when a press of the key waits. -/
structure Caught (x : Register) (key : Key) (m : Machine (Panel D K S R))
    (o : Outcome (Machine (Panel D K S R)) Instruction) : Prop where
  ok : ∃ i, o.result = .ok i
  /-- The key goes to the register, and the program counter moves on; nothing else changes in the
  processor. -/
  cpu : o.state.cpu =
    { m.cpu.setV x (UInt8.ofNat key.val) with pc := m.cpu.pc + instructionSize }
  value : (o.state.cpu.v x).toNat = key.val ∧ key.val < 16
  pc : o.state.cpu.pc.toNat = m.cpu.pc.toNat + 2
  /-- The press has been taken. -/
  taken : waiting? o.state.devices.keypad = none
  rest : o.state.memory = m.memory ∧ o.state.devices.display = m.devices.display ∧
    o.state.devices.random = m.devices.random ∧ o.state.cycles = m.cycles + 1

/-- **A press that waits is taken**, and the machine moves on. -/
theorem caught_cycle (h : m.Awaits x) {key : Key} (hkey : waiting? m.devices.keypad = some key) :
    Caught x key m (cycle m) := by
  obtain ⟨i, ns, hcycle⟩ := h.cycle_of_some hkey
  obtain ⟨word, hword, -, -⟩ := h
  have hinside := Memory.le_of_getWord hword
  rw [hcycle]
  refine ⟨⟨i, rfl⟩, rfl, ⟨?_, key.isLt⟩, ?_, Latch.waiting_take _, rfl, rfl, rfl, rfl⟩
  · change ((m.cpu.setV x (UInt8.ofNat key.val)).v x).toNat = key.val
    rw [Cpu.v_setV, if_pos rfl, Key.toNat_ofNat]
  · have hsize : Memory.size = 4096 := rfl
    change (m.cpu.pc + 2).toNat = m.cpu.pc.toNat + 2
    rw [UInt16.toNat_add]
    have htwo : (2 : UInt16).toNat = 2 := rfl
    omega

/-! ## Runs -/

/-- The keys whose presses reach the keypad in a moment: those that an event presses, or those that
a look at the keys finds. There is no look when the picture could not be shown before. -/
def pressed (m : Machine (Panel D K S R)) : Moment K → List Key
  | .tick .delay =>
    if (Display.present m.devices.display).result.isOk then Latch.found m.devices.keypad else []
  | .tick _ => []
  | .befall e => Latch.pressedBy e

/-- What the instruction that waits for a key has put in its register, if it was carried out in this
moment and the machine has moved on. -/
def got (m : Machine (Panel D K S R)) : Moment K → Option UInt8
  | .tick .cycle =>
    ((m.carriedOut .cycle).filter fun i =>
      i.mnemonic = .waitKey ∧ (m.turn .cycle).cpu.pc ≠ m.cpu.pc).map fun i =>
        (m.turn .cycle).cpu.v (i.register 0)
  | _ => none

/-- The runs of a machine whose keypad has no press waiting at first: the keys that have been
pressed, in order, the instructions that have got a key, each with the number of the newest press at
the time and with what it has put in its register, and the machine. Between the moments of the run
anything may be done to the machine that leaves the keypad alone. -/
inductive Keyed : List Key → List (Nat × UInt8) → Machine (Panel D K S R) → Prop where
  | start {m : Machine (Panel D K S R)} : waiting? m.devices.keypad = none → Keyed [] [] m
  | moment {presses : List Key} {done : List (Nat × UInt8)} {m : Machine (Panel D K S R)}
      (a : Moment K) : Keyed presses done m →
      Keyed (presses ++ m.pressed a)
        (done ++ (m.got a).toList.map ((presses.length - 1, ·))) (m.moment a)
  | aside {presses : List Key} {done : List (Nat × UInt8)} {m m' : Machine (Panel D K S R)} :
      Keyed presses done m → m'.devices.keypad = m.devices.keypad → Keyed presses done m'

section Ledger

variable {presses : List Key} {done : List (Nat × UInt8)}

/-- An instruction gets the press that waits, or none. -/
lemma ledger_cycle (h : Ledger presses done (waiting? m.devices.keypad)) :
    Ledger presses (done ++ (m.got (.tick .cycle)).toList.map ((presses.length - 1, ·)))
      (waiting? (m.turn .cycle).devices.keypad) := by
  have hidle (hgot : m.got (.tick .cycle) = none)
      (hsame : (m.turn .cycle).devices.keypad = m.devices.keypad) :
      Ledger presses (done ++ (m.got (.tick .cycle)).toList.map ((presses.length - 1, ·)))
        (waiting? (m.turn .cycle).devices.keypad) := by
    rw [hgot, hsame, Option.toList_none, List.map_nil, List.append_nil]
    exact h
  rcases m.turn_cycle with ⟨fault, ns, hc, hnone⟩ | ⟨i, ns, hc, hsome⟩
  · refine hidle (by rw [got, hnone]; rfl) ?_
    rcases cycle_eq_error hc with ⟨-, hturn⟩ | ⟨word, b, -, hrun, hturn⟩
    · rw [hturn]
    · have hkeypad : b.devices.keypad = m.devices.keypad := by
        have hfailed := congrArg Outcome.result hrun
        have hsame : Panel.keypad _ = Panel.keypad m.devices :=
          Board.part_of_error hfailed fun _ _ _ _ => rfl
        rwa [hrun] at hsame
      rw [hturn]
      exact hkeypad
  · obtain ⟨word, b, hword, hi, hrun, hturn⟩ := cycle_eq_ok hc
    by_cases hwait : i.mnemonic = .waitKey
    · have hawaits : m.Awaits (i.register 0) := ⟨word, hword, hi ▸ hwait, by rw [hi]⟩
      cases hkey : waiting? m.devices.keypad with
      | none =>
        rw [hkey] at h
        have hsame := hawaits.turn_of_none hkey
        have hgot : m.got (.tick .cycle) = none := by simp [got, hsome, hsame]
        rw [hgot, hsame, Latch.waiting_take, Option.toList_none, List.map_nil, List.append_nil]
        exact h
      | some key =>
        rw [hkey] at h
        obtain ⟨-, -, ⟨hvalue, -⟩, hpc, htaken, -⟩ := caught_cycle hawaits hkey
        rw [← state_turn_cycle] at hvalue hpc htaken
        have hmoved : (m.turn .cycle).cpu.pc ≠ m.cpu.pc := by
          intro hpc'
          rw [hpc'] at hpc
          omega
        have hgot : m.got (.tick .cycle) = some (UInt8.ofNat key.val) := by
          rw [← UInt8.toNat_inj.mp (hvalue.trans key.toNat_ofNat.symm)]
          simp [got, hsome, hwait, hmoved]
        rw [hgot, htaken]
        exact h.take rfl
    · refine hidle (by simp [got, hsome, hwait]) ?_
      have hkeypad := Board.part_execute_of_spares
        (Panel.spares_keypad (D := D) (S := S) (R := R) hwait) m.toBoard
      rw [hrun] at hkeypad
      rw [hturn]
      exact hkeypad

/-- **What a moment does to the ledger.** -/
lemma ledger_moment (h : Ledger presses done (waiting? m.devices.keypad)) (a : Moment K) :
    Ledger (presses ++ m.pressed a) (done ++ (m.got a).toList.map ((presses.length - 1, ·)))
      (waiting? (m.moment a).devices.keypad) := by
  cases a with
  | befall e =>
    simp only [got, Option.toList_none, List.map_nil, List.append_nil]
    exact h.press _ (Latch.waiting_befall _ e)
  | tick t =>
    cases t with
    | cycle =>
      simp only [pressed, List.append_nil]
      exact ledger_cycle h
    | sound =>
      simp only [pressed, got, Option.toList_none, List.map_nil, List.append_nil, moment,
        keypad_turn_sound]
      exact h
    | delay =>
      simp only [pressed, got, Option.toList_none, List.map_nil, List.append_nil, moment,
        keypad_turn_delay]
      split
      · exact h.press _ (Latch.waiting_poll _)
      · exact h.press [] fun key hkey => hkey

/-- **Each press is got by one instruction at most**, and the presses are got in order.

**Proof sketch.** Induction on the run: the press that waits is the newest, and has not been got. -/
theorem Keyed.ledger (h : Keyed presses done m) :
    Ledger presses done (waiting? m.devices.keypad) := by
  induction h with
  | start hnone =>
    rw [hnone]
    exact .nil
  | moment a _ ih => exact ledger_moment ih a
  | aside _ hsame ih =>
    rw [hsame]
    exact ih

/-! ## Ticks, advances and runs -/

/-- What the instructions that wait for a key have put in their registers, over several moments. -/
def gotAll : Machine (Panel D K S R) → List (Moment K) → List UInt8
  | _, [] => []
  | m, a :: as => (m.got a).toList ++ gotAll (m.moment a) as

/-- A run goes on for some moments, and what the instructions get in them is kept. -/
lemma Keyed.moments (h : Keyed presses done m) (as : List (Moment K)) :
    ∃ presses' done', Keyed (presses ++ presses') (done ++ done') (m.moments as) ∧
      done'.map Prod.snd = m.gotAll as := by
  induction as generalizing presses done m with
  | nil => exact ⟨[], [], by simpa [Machine.moments] using h, rfl⟩
  | cons a as ih =>
    obtain ⟨presses', done', hkeyed, hdone⟩ := ih (h.moment a)
    rw [List.append_assoc, List.append_assoc] at hkeyed
    refine ⟨_, _, hkeyed, ?_⟩
    rw [List.map_append, hdone, gotAll, List.map_map]
    congr 1
    cases m.got a <;> rfl

lemma moments_map_tick (m : Machine (Panel D K S R)) (ts : List Tick) :
    m.moments (ts.map .tick) = m.turns ts := by
  rw [moments, turns, List.foldl_map]
  rfl

/-- A run goes on by advancing to a time. -/
theorem Keyed.advanceTo (h : Keyed presses done m) (now : Nat) :
    ∃ presses' done', Keyed (presses ++ presses') (done ++ done') (advanceTo now m).state ∧
      done'.map Prod.snd = m.gotAll ((eventsTo now m).map fun e => .tick e.tick) := by
  obtain ⟨presses', done', hkeyed, hdone⟩ :=
    h.moments (((eventsTo now m).map Event.tick).map .tick)
  rw [moments_map_tick] at hkeyed
  refine ⟨presses', done', hkeyed.aside ?_, ?_⟩
  · rw [state_advanceTo]
    rfl
  · rw [hdone, List.map_map]
    rfl

/-- A run goes on by running by itself. -/
theorem Keyed.run (h : Keyed presses done m) (hm : m.Built) {limit : Option Nat} {fuel time : Nat}
    {o : Outcome (Machine (Panel D K S R)) Unit} (hrun : m.run? limit fuel = some (time, o)) :
    ∃ presses' done', Keyed (presses ++ presses') (done ++ done') o.state := by
  obtain ⟨body, hbody, hstate, -⟩ := run?_eq_some hrun
  obtain ⟨-, hend, -, -⟩ := runFrom?_eq (ticking_start hm.ticking 0) hbody
  have hstart : Keyed presses done (Machine.start 0 m).state := h.aside rfl
  obtain ⟨presses', done', hkeyed, -⟩ := hstart.advanceTo time
  refine ⟨presses', done', hkeyed.aside ?_⟩
  rw [hstate, keypad_stop, hend]

end Ledger

/-- **Waiting for a key.** A machine whose next instruction waits for a key stands still as long as
no press waits when an instruction is carried out: its timers count down, the instructions are
counted and nothing else changes, whatever befalls the keypad in between. The first instruction for
which a press waits takes it, puts its key in the register and moves on. Over a whole run no press
is got by two instructions, so that they are at most as many as the presses.

**Proof sketch.** Nothing that decides what the next instruction is changes while it waits in vain.
Only the newest press ever waits, and when it has been taken nothing waits until the next one, so
that the presses that are got have growing numbers. -/
theorem waits_for_key [Steady D] (h : m.Awaits x) (hvain : m.InVain as) :
    Stalled as m (m.moments as) ∧
      (∀ key, waiting? (m.moments as).devices.keypad = some key →
        Caught x key (m.moments as) (cycle (m.moments as))) ∧
      ∀ presses done (m' : Machine (Panel D K S R)), Keyed presses done m' →
        (∀ p ∈ done, ∃ key, presses[p.1]? = some key ∧ p.2 = UInt8.ofNat key.val) ∧
          done.Pairwise (fun p q => p.1 < q.1) ∧ done.length ≤ presses.length := by
  have hstalled := stalled_moments h hvain
  refine ⟨hstalled, fun key hkey => ?_, fun presses done m' hkeyed => ?_⟩
  · have hpc : (m.moments as).cpu.pc = m.cpu.pc := by rw [hstalled.cpu]
    exact caught_cycle (h.congr hpc hstalled.memory) hkey
  · obtain ⟨hnumbered, hincreasing, -⟩ := hkeyed.ledger
    exact ⟨hnumbered, hincreasing, hkeyed.ledger.length_taken_le⟩

/-- A machine on the keypad `k` with a program that waits for a key. -/
def patient (k : K) : Machine (Panel Scripted.Screen K Scripted.Buzzer Replay) :=
  (load (.ofList [0xf5, 0x0a])
    ⟨⟨.powerOn, .powerOn, ⟨benchDevices.display, k, benchDevices.speaker, benchDevices.random⟩⟩,
      .ofConfig benchConfig, false, 0⟩).state

/-- On switches a press is withdrawn, and the next one is got; on a keyboard a press is got as soon
as the keyboard has been looked at. -/
theorem waits_for_key_patient :
    let switched : List (Moment Switches) := [.tick .cycle, .befall (Switches.Event.press 7),
      .befall (Switches.Event.release 7), .tick .cycle, .befall (Switches.Event.press 11)]
    let typed : List (Moment Keyboard) := [.tick .cycle,
      .befall (⟨5, [.char 'Q' false], none⟩ : Keyboard.Event), .tick .cycle, .tick .delay]
    Caught 5 11 ((patient Switches.none).moments switched)
        (cycle ((patient Switches.none).moments switched)) ∧
      Caught 5 4 ((patient Keyboard.idle).moments typed)
        (cycle ((patient Keyboard.idle).moments typed)) ∧
      ∃ presses done,
        Keyed presses done ((patient Switches.none).moments (switched ++ [.tick .cycle])) ∧
          done.map Prod.snd = [11] ∧ done.length ≤ presses.length := by
  intro switched typed
  have hswitches : (patient Switches.none).Awaits 5 := ⟨0xf50a, by decide +kernel⟩
  have hkeyboard : (patient Keyboard.idle).Awaits 5 := ⟨0xf50a, by decide +kernel⟩
  have hswitched : (patient Switches.none).InVain switched := by
    simp only [switched, inVain_cons, reduceCtorEq, false_implies, true_and, inVain_nil, and_true]
    exact ⟨fun _ => by decide +kernel, fun _ => by decide +kernel⟩
  have htyped : (patient Keyboard.idle).InVain typed := by
    simp only [typed, inVain_cons, inVain_nil, and_true]
    exact ⟨fun _ => by decide +kernel, nofun, fun _ => by decide +kernel, nofun⟩
  have hstart : Keyed [] [] (patient Switches.none) := .start rfl
  obtain ⟨presses, done, hkeyed, hdone⟩ := hstart.moments (switched ++ [.tick .cycle])
  obtain ⟨-, hcaught, hruns⟩ := waits_for_key hswitches hswitched
  refine ⟨hcaught 11 (by decide +kernel),
    (waits_for_key hkeyboard htyped).2.1 4 (by decide +kernel), presses, done, hkeyed, ?_,
    (hruns presses done _ hkeyed).2.2⟩
  rw [hdone]
  decide +kernel

end Machine

end Chip8
