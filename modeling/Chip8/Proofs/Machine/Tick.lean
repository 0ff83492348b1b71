import Chip8.Proofs.Machine.Cycle

set_option autoImplicit false
set_option relaxedAutoImplicit false

/-!
# One tick of a machine

What handling one tick does to the parts of a machine. No tick reads or changes the clocks, only an
instruction that succeeds is counted, and to the processor a tick of a timer is one less on it, even
if a device fails.

## Main definitions

* `Chip8.Machine.Offstage` — a part of the machine apart from its devices and its speaker flag.
* `Chip8.Machine.Aside` — a part of the machine apart from its board and its speaker flag.

## Main results

* `Chip8.Machine.clocks_handle` — the clocks stand still while a tick is handled.
* `Chip8.Machine.cycles_handle` — a tick counts when it is an instruction that succeeds.
* `Chip8.Machine.cpu_delayTick`, `Chip8.Machine.cpu_soundTick` — what a timer does to the processor.
* `Chip8.Machine.advance_of_pop_none`, `Chip8.Machine.advance_of_pop_some` — dealing with ticks one
  at a time.
-/

namespace Chip8

namespace Machine

variable {δ τ α : Type}

/-- A part of the machine that neither the devices nor the speaker flag belong to. -/
structure Offstage (part : Machine δ → τ) : Prop where
  /-- The devices are no part of it. -/
  devices : ∀ d m, part { m with devices := d } = part m
  /-- The speaker flag is no part of it. -/
  soundOn : ∀ on m, part { m with soundOn := on } = part m

/-- A part of the machine that neither the board nor the speaker flag belongs to. -/
structure Aside (part : Machine δ → τ) : Prop where
  /-- The board is no part of it. -/
  board : ∀ b m, part { m with toBoard := b } = part m
  /-- The speaker flag is no part of it. -/
  soundOn : ∀ on m, part { m with soundOn := on } = part m

lemma aside_clocks : Aside (Machine.clocks (δ := δ)) := ⟨fun _ _ => rfl, fun _ _ => rfl⟩

lemma aside_cycles : Aside (Machine.cycles (δ := δ)) := ⟨fun _ _ => rfl, fun _ _ => rfl⟩

lemma offstage_cpu : Offstage fun m : Machine δ => m.cpu := ⟨fun _ _ => rfl, fun _ _ => rfl⟩

section Speaker

variable [Devices δ] {part : Machine δ → τ}

/-- Silencing the speaker leaves alone what the call to it does. -/
lemma keeps_silence_of (hon : ∀ on m, part { m with soundOn := on } = part m)
    (hsilence : Action.Keeps part (onDevices Speaker.silence)) : Action.Keeps part silence := by
  refine .bind .get fun m => ?_
  split
  · exact .bind hsilence fun _ => .modify fun m => hon false m
  · exact .pure _

/-- Letting the speaker beep leaves alone what the call to it does. -/
lemma keeps_beep_of (hon : ∀ on m, part { m with soundOn := on } = part m)
    (hbeep : Action.Keeps part (onDevices Speaker.beep)) : Action.Keeps part beep := by
  refine .bind .get fun m => ?_
  split
  · exact .bind hbeep fun _ => .modify fun m => hon true m
  · exact .pure _

/-- A tick of the sound clock leaves alone what calls to the speaker do. -/
lemma keeps_soundTick_of (hcpu : ∀ c m, part { m with cpu := c } = part m)
    (hon : ∀ on m, part { m with soundOn := on } = part m)
    (hbeep : Action.Keeps part (onDevices Speaker.beep))
    (hsilence : Action.Keeps part (onDevices Speaker.silence)) : Action.Keeps part soundTick := by
  refine .bind (fun m => hcpu m.cpu.tickSound m) fun _ => .bind .get fun m => ?_
  split
  · exact keeps_beep_of hon hbeep
  · exact keeps_silence_of hon hsilence

end Speaker

namespace Offstage

variable {part : Machine δ → τ}

lemma keeps_onDevices (h : Offstage part) (x : Action δ α) : Action.Keeps part (onDevices x) :=
  fun m => h.devices (x m.devices).state m

variable [Devices δ]

lemma keeps_silence (h : Offstage part) : Action.Keeps part silence :=
  keeps_silence_of h.soundOn (h.keeps_onDevices _)

lemma keeps_beep (h : Offstage part) : Action.Keeps part beep :=
  keeps_beep_of h.soundOn (h.keeps_onDevices _)

end Offstage

namespace Aside

variable {part : Machine δ → τ}

lemma offstage (h : Aside part) : Offstage part :=
  ⟨fun d m => h.board { m.toBoard with devices := d } m, h.soundOn⟩

lemma keeps_onBoard (h : Aside part) (x : Action (Board δ) α) : Action.Keeps part (onBoard x) :=
  Action.Keeps.zoom h.board

variable [Devices δ]

lemma keeps_delayTick (h : Aside part) : Action.Keeps part delayTick :=
  .bind (h.keeps_onBoard _) fun _ =>
    .bind (h.offstage.keeps_onDevices _) fun _ => h.offstage.keeps_onDevices _

lemma keeps_soundTick (h : Aside part) : Action.Keeps part soundTick :=
  keeps_soundTick_of (fun c m => h.board { m.toBoard with cpu := c } m) h.soundOn
    (h.offstage.keeps_onDevices _) (h.offstage.keeps_onDevices _)

end Aside

variable [Devices δ]

@[simp]
lemma clocks_cycle (m : Machine δ) : (cycle m).state.clocks = m.clocks := by
  have hkeep : Action.Keeps Machine.clocks (cycle (δ := δ)) :=
    .bind (.query _) fun _ => .bind (aside_clocks.keeps_onBoard _) fun _ =>
      .bind (.modify fun _ => rfl) fun _ => .pure _
  exact hkeep m

/-- The clocks stand still while a tick is handled. -/
@[simp]
lemma clocks_handle (t : Tick) (m : Machine δ) : (handle t m).state.clocks = m.clocks := by
  cases t with
  | delay => exact aside_clocks.keeps_delayTick m
  | sound => exact aside_clocks.keeps_soundTick m
  | cycle => exact Action.Keeps.bind clocks_cycle (fun _ => .pure ()) m

/-- A tick that succeeds counts when it is an instruction. -/
lemma cycles_handle {t : Tick} {m m' : Machine δ} {ns : List Notice}
    (h : handle t m = ⟨m', .ok (), ns⟩) :
    m'.cycles = m.cycles + if t = .cycle then 1 else 0 := by
  cases t with
  | delay =>
    have hkeep := aside_cycles.keeps_delayTick m
    rw [show delayTick m = ⟨m', .ok (), ns⟩ from h] at hkeep
    simpa using hkeep
  | sound =>
    have hkeep := aside_cycles.keeps_soundTick m
    rw [show soundTick m = ⟨m', .ok (), ns⟩ from h] at hkeep
    simpa using hkeep
  | cycle =>
    obtain ⟨_, _, _, _, hcycle, h, -⟩ := Action.bind_eq_ok h
    obtain ⟨_, _, _, _, _, rfl⟩ := cycle_eq_ok hcycle
    cases h
    simp

/-! ## Timers -/

/-- To the processor a tick of the delay timer is one less on it, even if the picture cannot be
shown or the keys cannot be looked at. -/
@[simp]
lemma cpu_delayTick (m : Machine δ) : (delayTick m).state.cpu = m.cpu.tickDelay := by
  have hdevices : Action.Keeps (fun m : Machine δ => m.cpu)
      (onDevices Display.present >>= fun _ => onDevices Keypad.poll) :=
    .bind (offstage_cpu.keeps_onDevices _) fun _ => offstage_cpu.keeps_onDevices _
  exact hdevices { m with cpu := m.cpu.tickDelay }

/-- To the processor a tick of the sound timer is one less on it, even if the speaker fails. -/
@[simp]
lemma cpu_soundTick (m : Machine δ) : (soundTick m).state.cpu = m.cpu.tickSound := by
  have hspeaker : Action.Keeps (fun m : Machine δ => m.cpu)
      (Action.get >>= fun m : Machine δ => if 0 < m.cpu.sound then beep else silence) := by
    refine .bind .get fun m => ?_
    split
    · exact offstage_cpu.keeps_beep
    · exact offstage_cpu.keeps_silence
  exact hspeaker { m with cpu := m.cpu.tickSound }

/-! ## Several ticks -/

lemma advance_of_pop_none {now : Nat} {m : Machine δ} (h : m.clocks.pop now = none)
    (limit : Nat) : advance limit now m = ⟨m, .ok (), []⟩ := by
  cases limit with
  | zero => rfl
  | succ limit => simp only [advance, h]

/-- Dealing with ticks is dealing with the first, on clocks that have moved on, and then with the
others. -/
lemma advance_of_pop_some {now due : Nat} {t : Tick} {clocks : Clocks} {m : Machine δ}
    (h : m.clocks.pop now = some ((t, due), clocks)) (limit : Nat) :
    advance (limit + 1) now m =
      (handle t >>= fun _ => advance limit now) { m with clocks := clocks } := by
  simp only [advance, h]

end Machine

end Chip8
