import Chip8.Proofs.Instruction.Effect
import Chip8.Proofs.Machine.Built
import Chip8.Proofs.Machine.Turns

set_option autoImplicit false
set_option relaxedAutoImplicit false

/-!
# What a machine tells its speaker

A machine turns to its speaker at ticks of the sound clock and when it is stopped, and at no other
time. Both are the same action: the speaker is to be on, or off, and is told so unless it is so
already. What holds of the speaker and of the flag for it, in whatever way the machine has been
worked with, is proved by looking at that action alone.

## Main definitions

* `Chip8.Machine.tell` — has the speaker on, or off.
* `Chip8.Machine.Told` — what comes of it, by what is written down about the speaker.
* `Chip8.Devices.SpeakerPart` — a part of the devices that only the speaker's calls reach.
* `Chip8.Machine.Worked` — a machine that has been worked with since it was created, with a part of
  its devices left to itself.

## Main results

* `Chip8.Machine.tell_eq`, `Chip8.Machine.told_tell` — what comes of telling the speaker.
* `Chip8.Machine.told_soundTick`, `Chip8.Machine.told_stop` — when the speaker is told.
* `Chip8.Machine.soundOn_run` — a run by itself ends without the tone, unless it fails.
* `Chip8.Machine.Worked.induct` — what telling the speaker preserves holds of every machine.
-/

namespace Chip8

variable {δ τ : Type}

/-- Makes the tone, or no tone. -/
def Speaker.tell [Speaker δ] (on : Bool) : Action δ Unit :=
  if on then Speaker.beep else Speaker.silence

/-- A part of the devices that only the speaker's calls reach. -/
structure Devices.SpeakerPart [Devices δ] (part : δ → τ) : Prop where
  clear : ∀ d, part (Display.clear d) = part d
  draw : ∀ d x y bit, part (Display.draw d x y bit).2 = part d
  present : Action.Keeps part Display.present
  takePressed : ∀ d, part (Keypad.takePressed d).2 = part d
  poll : Action.Keeps part Keypad.poll
  nextByte : ∀ d, part (RandomSource.nextByte d).2 = part d

/-- No instruction turns to the speaker. -/
lemma Devices.SpeakerPart.spares [Devices δ] {part : δ → τ} (h : Devices.SpeakerPart part)
    (m : Mnemonic) : m.Spares part := by
  cases m with
  | cls => exact h.clear
  | draw => exact h.draw
  | waitKey => exact h.takePressed
  | random => exact h.nextByte
  | _ => trivial

namespace Machine

/-! ## Telling the speaker -/

/-- A call to a device that is followed by setting the flag for the speaker. -/
lemma onDevices_setSoundOn_eq (call : Action δ Unit) (on : Bool) (m : Machine δ) :
    (onDevices call >>= fun _ => setSoundOn on) m =
      match call m.devices with
      | ⟨d, .error fault, ns⟩ => ⟨{ m with devices := d }, .error fault, ns⟩
      | ⟨d, .ok (), ns⟩ => ⟨{ m with devices := d, soundOn := on }, .ok (), ns⟩ := by
  rcases hcall : call m.devices with ⟨d, fault | ⟨⟩, ns⟩
  · have hdevices : onDevices call m = ⟨{ m with devices := d }, .error fault, ns⟩ := by
      simp only [onDevices, onBoard, Board.onDevices, Action.zoom, hcall]
    exact Action.bind_of_error hdevices
  · have hdevices : onDevices call m = ⟨{ m with devices := d }, .ok (), ns⟩ := by
      simp only [onDevices, onBoard, Board.onDevices, Action.zoom, hcall]
    rw [Action.bind_of_ok hdevices]
    simp [setSoundOn, Action.modify]

variable [Devices δ]

/-- Has the speaker on, or off: it is told so, unless it is so already. -/
def tell (on : Bool) : Action (Machine δ) Unit := if on then beep else silence

/-- After its next tick the sound timer still runs, so that the speaker is to be on. -/
def wantsSound (m : Machine δ) : Bool := 0 < m.cpu.tickSound.sound

/-- **All that comes of telling the speaker.** Nothing, if it is as it should be; else a call, after
which the flag is set if the call has succeeded. -/
lemma tell_eq (on : Bool) (m : Machine δ) :
    tell on m =
      if m.soundOn = on then ⟨m, .ok (), []⟩
      else
        match Speaker.tell on m.devices with
        | ⟨d, .error fault, ns⟩ => ⟨{ m with devices := d }, .error fault, ns⟩
        | ⟨d, .ok (), ns⟩ => ⟨{ m with devices := d, soundOn := on }, .ok (), ns⟩ := by
  rw [← onDevices_setSoundOn_eq]
  cases on with
  | true =>
    simp only [tell, Speaker.tell, if_true, beep, Action.get_bind]
    cases m.soundOn <;> rfl
  | false =>
    simp only [tell, Speaker.tell, Bool.false_eq_true, if_false, silence, Action.get_bind]
    cases m.soundOn <;> rfl

/-- What is written down about the speaker gets one more entry when the speaker is called. -/
def Logs (log : δ → List τ) (entry : Bool → Bool → τ) (on : Bool) (d : δ) : Prop :=
  log (Speaker.tell on d).state = log d ++ [entry on (Speaker.tell on d).result.isOk]

/-- What comes of having the speaker on, or off, as `wanted`. What is written down about it has an
entry for each call, which says what was wanted and whether it was done. -/
structure Told (log : δ → List τ) (entry : Bool → Bool → τ) (wanted : Bool) (m : Machine δ)
    (o : Outcome (Machine δ) Unit) : Prop where
  /-- The speaker is called once if the flag is to change, and otherwise not at all. -/
  calls : log o.state.devices =
    log m.devices ++ if m.soundOn = wanted then [] else [entry wanted o.result.isOk]
  /-- A success leaves the flag as it is wanted. -/
  ok : o.result = .ok () → o.state.soundOn = wanted
  /-- A failure is one of the call, and leaves the flag as it was. -/
  error : ∀ fault, o.result = .error fault → m.soundOn ≠ wanted ∧ o.state.soundOn = m.soundOn

section Told

variable {log : δ → List τ} {entry : Bool → Bool → τ} {wanted : Bool} {m : Machine δ}

/-- Telling the speaker succeeds only if it is as it was wanted afterwards. -/
lemma soundOn_tell (hok : (tell wanted m).result = .ok ()) :
    (tell wanted m).state.soundOn = wanted := by
  rw [tell_eq] at hok ⊢
  by_cases hon : m.soundOn = wanted
  · rw [if_pos hon]
    exact hon
  · rw [if_neg hon] at hok ⊢
    rcases htell : Speaker.tell wanted m.devices with ⟨l, fault | ⟨⟩, ns⟩
    · rw [htell] at hok
      cases hok
    · rfl

/-- **The speaker is called only when it is to change.** -/
theorem told_tell (hlog : m.soundOn ≠ wanted → Logs log entry wanted m.devices) :
    Told log entry wanted m (tell wanted m) := by
  refine ⟨?_, soundOn_tell, ?_⟩ <;> rw [tell_eq] <;> by_cases hon : m.soundOn = wanted
  · simp [hon]
  · have hcalls := hlog hon
    rw [Logs] at hcalls
    rw [if_neg hon, if_neg hon]
    rcases htell : Speaker.tell wanted m.devices with ⟨l, fault | ⟨⟩, ns⟩ <;>
    · rw [htell] at hcalls
      exact hcalls
  · rw [if_pos hon]
    intro fault hfail
    cases hfail
  · rw [if_neg hon]
    rcases htell : Speaker.tell wanted m.devices with ⟨l, fault | ⟨⟩, ns⟩
    · exact fun _ _ => ⟨hon, rfl⟩
    · exact fun _ hfail => by cases hfail

end Told

/-- At a tick of the sound clock the speaker is told what the timer wants then. -/
lemma soundTick_eq (m : Machine δ) :
    soundTick m = tell m.wantsSound { m with cpu := m.cpu.tickSound } := by
  change (if 0 < m.cpu.tickSound.sound then beep else silence) { m with cpu := m.cpu.tickSound } = _
  by_cases hsound : 0 < m.cpu.tickSound.sound
  · have hwants : m.wantsSound = true := decide_eq_true hsound
    rw [if_pos hsound, hwants]
    rfl
  · have hwants : m.wantsSound = false := decide_eq_false hsound
    rw [if_neg hsound, hwants]
    rfl

/-- A machine that is stopped tells its speaker to be silent. -/
lemma stop_eq (m : Machine δ) :
    (stop m).state = (tell false (m.setClocks m.clocks.stopped)).state ∧
      (stop m).result = (tell false (m.setClocks m.clocks.stopped)).result := by
  have hclocks : onClocks Clocks.stop m =
      ⟨m.setClocks m.clocks.stopped, .ok (), [.clocksStopped]⟩ := rfl
  rw [stop, Action.bind_of_ok hclocks]
  exact ⟨rfl, rfl⟩

section Told

variable {log : δ → List τ} {entry : Bool → Bool → τ} {m : Machine δ}

lemma told_soundTick (hlog : m.soundOn ≠ m.wantsSound → Logs log entry m.wantsSound m.devices) :
    Told log entry m.wantsSound m (soundTick m) := by
  have htold : Told log entry m.wantsSound { m with cpu := m.cpu.tickSound } _ := told_tell hlog
  rw [← soundTick_eq] at htold
  exact ⟨htold.calls, htold.ok, htold.error⟩

lemma told_stop (hlog : m.soundOn ≠ false → Logs log entry false m.devices) :
    Told log entry false m (stop m) := by
  obtain ⟨hstate, hresult⟩ := stop_eq m
  have htold : Told log entry false (m.setClocks m.clocks.stopped) _ := told_tell hlog
  obtain ⟨hcalls, hok, herror⟩ := htold
  rw [← hstate, ← hresult] at hcalls hok herror
  exact ⟨hcalls, hok, herror⟩

/-- After a tick of the sound clock that succeeds, the flag is set as long as the timer runs. -/
lemma soundOn_soundTick (hok : (soundTick m).result = .ok ()) :
    (soundTick m).state.soundOn = decide (0 < (soundTick m).state.cpu.sound) := by
  rw [cpu_soundTick]
  rw [soundTick_eq] at hok ⊢
  exact soundOn_tell hok

lemma soundOn_stop (hok : (stop m).result = .ok ()) : (stop m).state.soundOn = false := by
  obtain ⟨hstate, hresult⟩ := stop_eq m
  rw [hresult] at hok
  rw [hstate]
  exact soundOn_tell hok

/-- A run by itself that succeeds has stopped the machine. -/
lemma soundOn_run {limit : Option Nat} {fuel time : Nat} {o : Outcome (Machine δ) Unit}
    (hrun : m.run? limit fuel = some (time, o)) (hok : o.result = .ok ()) :
    o.state.soundOn = false := by
  obtain ⟨body, -, hstate, hresult⟩ := run?_eq_some hrun
  rw [hstate]
  refine soundOn_stop ?_
  rw [hresult] at hok
  cases hstop : (stop body.state).result with
  | ok => rfl
  | error fault =>
    rw [hstop] at hok
    cases hok

end Told

/-! ## Not telling the speaker -/

section Silent

variable {part : δ → τ}

/-- An instruction does not touch the speaker or the flag for it. -/
lemma keeps_speaker_cycle (h : Devices.SpeakerPart part) :
    Action.Keeps (fun m : Machine δ => (m.soundOn, part m.devices)) cycle := by
  refine .bind (.query _) fun word => .bind (fun m => ?_) fun _ =>
    .bind (.modify fun _ => rfl) fun _ => .pure _
  exact congrArg (m.soundOn, ·) (Board.part_execute_of_spares (h.spares _) m.toBoard)

/-- Neither does a tick of the delay clock. -/
lemma keeps_speaker_delayTick (h : Devices.SpeakerPart part) :
    Action.Keeps (fun m : Machine δ => (m.soundOn, part m.devices)) delayTick := by
  refine .bind (fun _ => rfl) fun _ => .bind (fun m => ?_) fun _ m => ?_
  · exact congrArg (m.soundOn, ·) (h.present m.devices)
  · exact congrArg (m.soundOn, ·) (h.poll m.devices)

/-- The speaker is left alone by every tick that is not one of the sound clock. -/
lemma speaker_turn (h : Devices.SpeakerPart part) {t : Tick} (ht : t ≠ .sound) (m : Machine δ) :
    (m.turn t).soundOn = m.soundOn ∧ part (m.turn t).devices = part m.devices := by
  rw [← Prod.mk.injEq]
  cases t with
  | delay => exact keeps_speaker_delayTick h m
  | sound => exact absurd rfl ht
  | cycle =>
    rw [state_turn_cycle]
    exact keeps_speaker_cycle h m

end Silent

/-! ## Working with a machine -/

/-- The machines that come from one that is created with the devices `d`, and is then worked with by
any of its actions, with any outcome. The processor may be changed from outside at any time, and so
may the devices, but for the given part of them. -/
inductive Worked (part : δ → τ) (d : δ) : Machine δ → Prop where
  | create {config : Config} {m : Machine δ} : Machine.create config d = .ok m → Worked part d m
  | load {m : Machine δ} (feed : Feed) : Worked part d m → Worked part d (load feed m).state
  | cycle {m : Machine δ} : Worked part d m → Worked part d (cycle m).state
  | delayTick {m : Machine δ} : Worked part d m → Worked part d (delayTick m).state
  | soundTick {m : Machine δ} : Worked part d m → Worked part d (soundTick m).state
  | start {m : Machine δ} (now : Nat) : Worked part d m → Worked part d (start now m).state
  | stop {m : Machine δ} : Worked part d m → Worked part d (stop m).state
  | advanceTo {m : Machine δ} (now : Nat) : Worked part d m → Worked part d (advanceTo now m).state
  | run {m : Machine δ} {limit : Option Nat} {fuel time : Nat} {o : Outcome (Machine δ) Unit} :
      Worked part d m → m.run? limit fuel = some (time, o) → Worked part d o.state
  | editCpu {m : Machine δ} (f : Cpu → Cpu) :
      Worked part d m → Worked part d { m with cpu := f m.cpu }
  | editDevices {m : Machine δ} {d' : δ} : Worked part d m → part d' = part m.devices →
      Worked part d { m with devices := d' }

namespace Worked

variable {part : δ → τ} {d : δ} {m : Machine δ}

/-- A machine that has been worked with has been built. -/
lemma built (h : m.Worked part d) : m.Built := by
  induction h with
  | create hcreate => exact .create hcreate
  | load feed _ ih => exact .load feed ih
  | cycle _ ih => exact .cycle ih
  | delayTick _ ih => exact .delayTick ih
  | soundTick _ ih => exact .soundTick ih
  | start now _ ih => exact .start now ih
  | stop _ ih => exact .stop ih
  | advanceTo now _ ih => exact .advanceTo now ih
  | run _ hrun ih => exact .run ih hrun
  | editCpu f _ ih => exact .editCpu f ih
  | @editDevices _ d' _ _ ih => exact .editDevices (fun _ => d') ih

/-- **What telling the speaker preserves holds of every machine**, if it holds of one that has just
been created. It may be anything about the flag for the speaker and a part of the devices that only
the speaker's calls reach.

**Proof sketch.** Induction on what has been done with the machine. To advance is to handle ticks,
of which only those of the sound clock tell the speaker anything, and a run by itself is to advance
and then to stop. -/
theorem induct (hpart : Devices.SpeakerPart part) {Q : Bool → τ → Prop} (hstart : Q false (part d))
    (htell : ∀ on (m : Machine δ), Q m.soundOn (part m.devices) →
      Q (tell on m).state.soundOn (part (tell on m).state.devices))
    (h : m.Worked part d) : Q m.soundOn (part m.devices) := by
  have hturn (t : Tick) (m : Machine δ) (hm : Q m.soundOn (part m.devices)) :
      Q (m.turn t).soundOn (part (m.turn t).devices) := by
    by_cases ht : t = .sound
    · subst ht
      have hsound : m.turn .sound = (Machine.soundTick m).state := rfl
      rw [hsound, soundTick_eq]
      exact htell _ { m with cpu := m.cpu.tickSound } hm
    · obtain ⟨hon, hdevices⟩ := speaker_turn hpart ht m
      rwa [hon, hdevices]
  have hturns (ts : List Tick) (m : Machine δ) (hm : Q m.soundOn (part m.devices)) :
      Q (m.turns ts).soundOn (part (m.turns ts).devices) := by
    induction ts generalizing m with
    | nil => exact hm
    | cons t ts ih => exact ih _ (hturn t m hm)
  have hadvance (now : Nat) (m : Machine δ) (hm : Q m.soundOn (part m.devices)) :
      Q (Machine.advanceTo now m).state.soundOn (part (Machine.advanceTo now m).state.devices) := by
    rw [state_advanceTo]
    exact hturns _ m hm
  have hstop (m : Machine δ) (hm : Q m.soundOn (part m.devices)) :
      Q (Machine.stop m).state.soundOn (part (Machine.stop m).state.devices) := by
    rw [(stop_eq m).1]
    exact htell _ (m.setClocks m.clocks.stopped) hm
  induction h with
  | create hcreate =>
    obtain ⟨-, rfl⟩ := create_eq_ok hcreate
    exact hstart
  | load feed _ ih => exact ih
  | @cycle m _ ih =>
    rw [← state_turn_cycle]
    exact hturn .cycle m ih
  | @delayTick m _ ih => exact hturn .delay m ih
  | @soundTick m _ ih => exact hturn .sound m ih
  | start now _ ih => exact ih
  | stop _ ih => exact hstop _ ih
  | advanceTo now _ ih => exact hadvance now _ ih
  | @run m limit fuel time o hm hrun ih =>
    obtain ⟨body, hbody, hstate, -⟩ := run?_eq_some hrun
    obtain ⟨-, hend, -, -⟩ := runFrom?_eq (ticking_start hm.built.ticking 0) hbody
    rw [hstate]
    refine hstop _ ?_
    rw [hend]
    exact hadvance time _ ih
  | editCpu f _ ih => exact ih
  | editDevices _ hsame ih =>
    rw [← hsame] at ih
    exact ih

end Worked

end Machine

end Chip8
