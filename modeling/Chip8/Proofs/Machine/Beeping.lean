import Chip8.Proofs.Machine.Map
import Chip8.Proofs.Machine.Tell
import Chip8.Scripted

set_option autoImplicit false
set_option relaxedAutoImplicit false

/-!
# Machines that beep through a console

A machine has a flag for its speaker, and a beeper has one of its own for its console. Each of them
leaves the other alone when its flag says that nothing is to be done. The two flags agree, and agree
with the console, at all times and whichever calls fail, so that neither keeps a call back that the
other needs.

## Main definitions

* `Chip8.Console.Logged`, `Chip8.Console.Lawful` — what can be seen of a console, and what is
  expected of it.
* `Chip8.Console.accepted` — what the console was told and has done.
* `Chip8.Beeper.Sent` — what comes of a call to a beeper whose flag is to change.
* `Chip8.Machine.Audible` — all that a machine, its beeper and the console have to do with each
  other.

## Main results

* `Chip8.Beeper.sent_tell` — a beeper passes on every call that changes its flag.
* `Chip8.Machine.Worked.beeping` — both flags are what the console does.
* `Chip8.Machine.Worked.audible` — the tone comes and goes as the timer wants it.
-/

namespace Chip8

/-! ## Consoles -/

namespace Console

/-- What can be seen of a console. -/
class Logged (κ : Type) extends Console κ where
  /-- The value by which it is told to make a tone that has a pitch. -/
  value : (pitch : UInt16) → Nat
  /-- What it was told, the oldest signal first. -/
  signals : κ → List Signal

export Logged (signals)

/-- What is expected of a console: it is told one thing by each call, which it does unless the call
fails. -/
class Lawful (κ : Type) [Logged κ] : Prop where
  /-- It is told zero for silence, and for silence only. -/
  value_eq_zero_iff : ∀ pitch, Logged.value κ pitch = 0 ↔ pitch = 0
  /-- A call sends one signal, which is accepted unless the call fails. -/
  signals_sound : ∀ pitch (k : κ), signals (sound pitch k).2 =
    signals k ++ [⟨Logged.value κ pitch, (sound pitch k).1.isOk⟩]

instance : Logged Scripted.Console where
  value := Scripted.Console.divisor
  signals := Scripted.Console.signals

instance : Lawful Scripted.Console where
  value_eq_zero_iff pitch := by
    change Scripted.Console.divisor pitch = 0 ↔ pitch = 0
    rw [Scripted.Console.divisor]
    split
    · next hzero => exact iff_of_true rfl hzero
    · next hpitch =>
      -- the clock is faster than any pitch
      have hpos : 0 < pitch.toNat := Nat.pos_of_ne_zero fun h => hpitch (UInt16.toNat_inj.mp h)
      have hle : pitch.toNat ≤ Scripted.Console.clockRate :=
        Nat.le_trans (Nat.le_of_lt pitch.toNat_lt) (by decide)
      exact iff_of_false (Nat.div_pos hle hpos).ne' hpitch
  signals_sound pitch k := by
    cases hfails : k.failing (k.signals.length + 1) <;> simp [signals, sound, hfails] <;>
      exact ⟨rfl, rfl⟩

variable {κ : Type} [Logged κ]

/-- What the console was told and has done, the oldest signal first: the value of a tone, or zero
for silence. -/
def accepted (k : κ) : List Nat := ((signals k).filter (·.accepted)).map Signal.value

/-- The console's answer to a signal decides whether it is among the accepted ones. -/
lemma accepted_of_concat {k k' : κ} {value : Nat} {ok : Bool}
    (h : signals k' = signals k ++ [⟨value, ok⟩]) :
    accepted k' = accepted k ++ if ok then [value] else [] := by
  cases ok <;> simp [accepted, h]

end Console

open Console (Logged Lawful signals accepted)

/-! ## Beepers -/

namespace Beeper

variable {κ : Type} [Logged κ] {on : Bool} {b : Beeper κ}

/-- The pitch that the console is asked for, with the tone or without. -/
def pitchOf (on : Bool) : UInt16 := if on then pitch else 0

variable (κ) in
/-- The signal for the tone, or for silence, with the console's answer to it. -/
def signal (on ok : Bool) : Signal := ⟨Logged.value κ (pitchOf on), ok⟩

/-- What comes of a call to a beeper whose flag is to change. -/
structure Sent (on : Bool) (b : Beeper κ) (o : Outcome (Beeper κ) Unit) : Prop where
  /-- The console is told. -/
  signals : signals o.state.console = signals b.console ++ [signal κ on o.result.isOk]
  /-- The flag changes if the console does as it is told. -/
  beeping : o.state.beeping = if o.result.isOk then on else b.beeping

/-- The flag is what the console does. -/
def Honest (b : Beeper κ) : Prop :=
  (accepted b.console).getLastD 0 = Logged.value κ (pitchOf b.beeping)

/-- A call that changes the flag keeps it honest, whether the call fails or not. -/
lemma Honest.of_sent {o : Outcome (Beeper κ) Unit} (hb : b.Honest) (h : Sent on b o) :
    o.state.Honest := by
  rw [Honest, h.beeping, Console.accepted_of_concat h.signals]
  cases o.result.isOk with
  | true => simp
  | false =>
    simp only [Bool.false_eq_true, if_false, List.append_nil]
    exact hb

variable [Lawful κ]

variable (κ) in
lemma value_ne_zero_iff : Logged.value κ (pitchOf on) ≠ 0 ↔ on = true := by
  rw [Ne, Lawful.value_eq_zero_iff]
  cases on <;> decide

variable (κ) in
lemma value_silence : Logged.value κ (pitchOf false) = 0 := (Lawful.value_eq_zero_iff _).mpr rfl

/-- Telling the console, and then changing the flag. -/
lemma sent_send (on : Bool) (b : Beeper κ) :
    Sent on b ((do
      send (pitchOf on)
      Action.modify fun b => { b with beeping := on } : Action (Beeper κ) Unit) b) := by
  have hsignals := Lawful.signals_sound (pitchOf on) b.console
  rcases hsound : Console.sound (pitchOf on) b.console with ⟨message | ⟨⟩, console⟩ <;>
    rw [hsound] at hsignals
  · have hsend : send (pitchOf on) b =
        ⟨{ b with console := console }, .error (.audio message), []⟩ := by
      rw [send, hsound]
      rfl
    rw [Action.bind_of_error hsend]
    exact ⟨hsignals, rfl⟩
  · have hsend : send (pitchOf on) b = ⟨{ b with console := console }, .ok (), []⟩ := by
      rw [send, hsound]
      rfl
    rw [Action.bind_of_ok hsend]
    exact ⟨hsignals, rfl⟩

/-- **A beeper passes on every call that changes its flag.** -/
theorem sent_tell (h : b.beeping ≠ on) : Sent on b (Speaker.tell on b) := by
  cases on with
  | true => exact sent_send true b
  | false =>
    have hsilence : silence b = (do
        send (pitchOf false)
        Action.modify fun b => { b with beeping := false } : Action (Beeper κ) Unit) b := by
      simp only [silence, Action.get_bind, eq_true_of_ne_false h, if_true]
      rfl
    change Sent false b (silence b)
    rw [hsilence]
    exact sent_send false b

/-- A beeper on a console that has been told nothing is honest. -/
lemma honest_ofConsole {console : κ} (h : signals console = []) : (ofConsole console).Honest := by
  have haccepted : accepted console = [] := by rw [accepted, h]; rfl
  change (accepted console).getLastD 0 = Logged.value κ (pitchOf false)
  rw [haccepted, value_silence]
  rfl

/-- A beeper that is no longer used is silent, unless its last call has failed. -/
lemma Honest.close (hb : b.Honest) (hok : (silence b).result = .ok ()) :
    (accepted b.close.console).getLastD 0 = 0 := by
  by_cases hon : b.beeping = false
  · have hclose : b.close = b := by
      simp [Beeper.close, silence, Action.get_bind, hon]
      rfl
    rw [hclose, hb, hon]
    exact value_silence κ
  · have hsent : Sent false b (silence b) := sent_tell hon
    have hoff := hsent.beeping
    rw [hok] at hoff
    have hhonest : b.close.Honest := hb.of_sent hsent
    rw [hhonest, Beeper.close, hoff]
    exact value_silence κ

end Beeper

/-! ## Machines -/

namespace Machine

variable {D K R κ : Type} [Display D] [Keypad K] [RandomSource R] [Logged κ]
  {d : Panel D K (Beeper κ) R} {m : Machine (Panel D K (Beeper κ) R)}

/-- What the console of a panel was told. -/
def signalled (p : Panel D K (Beeper κ) R) : List Signal := signals p.speaker.console

lemma speakerPart_speaker {S : Type} [Speaker S] :
    Devices.SpeakerPart (Panel.speaker (D := D) (K := K) (S := S) (R := R)) where
  clear _ := rfl
  draw _ _ _ _ := rfl
  present _ := rfl
  takePressed _ := rfl
  poll _ := rfl
  nextByte _ := rfl

lemma panel_tell {S : Type} [Speaker S] (on : Bool) (p : Panel D K S R) :
    (Speaker.tell on p).state.speaker = (Speaker.tell on p.speaker).state ∧
      (Speaker.tell on p).result = (Speaker.tell on p.speaker).result := by
  cases on <;> exact ⟨rfl, rfl⟩

/-- All that a machine, its beeper and the console have to do with each other. -/
structure Audible (m : Machine (Panel D K (Beeper κ) R)) : Prop where
  /-- The machine and the beeper have the same flag. -/
  flags : m.soundOn = m.devices.speaker.beeping
  /-- It is set if the last signal that the console has accepted was not for silence. -/
  tone : m.soundOn = true ↔ (accepted m.devices.speaker.console).getLastD 0 ≠ 0
  /-- A tick of the sound clock sends one signal, of the kind the timer wants, if the flag is to
  change, and otherwise none. -/
  soundTick : Told signalled (Beeper.signal κ) m.wantsSound m (soundTick m)
  /-- To stop sends one signal for silence if the flag is set, and otherwise none. -/
  stop : Told signalled (Beeper.signal κ) false m (stop m)
  /-- After a stop that succeeds the console is silent. -/
  stopped : (Machine.stop m).result = .ok () →
    (accepted (Machine.stop m).state.devices.speaker.console).getLastD 0 = 0
  /-- After a run by itself that succeeds the console is silent. -/
  run : ∀ limit fuel time o, m.run? limit fuel = some (time, o) → o.result = .ok () →
    (accepted o.state.devices.speaker.console).getLastD 0 = 0
  /-- When the beeper is no longer used the console is silent, unless that last call fails. -/
  closed : (Beeper.silence m.devices.speaker).result = .ok () →
    (accepted m.devices.speaker.close.console).getLastD 0 = 0

variable [Lawful κ]

/-- What telling the speaker preserves: both flags are what the console does. -/
lemma beeping_tell (wanted : Bool) (m : Machine (Panel D K (Beeper κ) R))
    (h : m.soundOn = m.devices.speaker.beeping ∧ m.devices.speaker.Honest) :
    (tell wanted m).state.soundOn = (tell wanted m).state.devices.speaker.beeping ∧
      (tell wanted m).state.devices.speaker.Honest := by
  obtain ⟨hflags, hhonest⟩ := h
  rw [tell_eq]
  by_cases hon : m.soundOn = wanted
  · rw [if_pos hon]
    exact ⟨hflags, hhonest⟩
  · rw [if_neg hon]
    have hsent := Beeper.sent_tell (hflags ▸ hon)
    obtain ⟨hspeaker, hresult⟩ := panel_tell wanted m.devices
    have hbeeping := hsent.beeping
    have hhonest' := hhonest.of_sent hsent
    rw [← hspeaker] at hbeeping hhonest'
    rw [← hresult] at hbeeping
    rcases htell : Speaker.tell wanted m.devices with ⟨p, fault | ⟨⟩, ns⟩ <;>
      rw [htell] at hbeeping hhonest'
    · exact ⟨hflags.trans hbeeping.symm, hhonest'⟩
    · exact ⟨hbeeping.symm, hhonest'⟩

/-- **Both flags are what the console does**, whatever has been done with the machine, as long as
nothing else uses the beeper. -/
theorem Worked.beeping (h : m.Worked Panel.speaker d) {console : κ}
    (hd : d.speaker = .ofConsole console) (hconsole : signals console = []) :
    m.soundOn = m.devices.speaker.beeping ∧ m.devices.speaker.Honest := by
  refine h.induct (Q := fun on b => on = b.beeping ∧ b.Honest) speakerPart_speaker
    ?_ beeping_tell
  rw [hd]
  exact ⟨rfl, Beeper.honest_ofConsole hconsole⟩

/-- A beeper whose flag is that of the machine writes down what the machine wants. -/
lemma logs_signalled {wanted : Bool} {p : Panel D K (Beeper κ) R} (h : p.speaker.beeping ≠ wanted) :
    Logs signalled (Beeper.signal κ) wanted p := by
  obtain ⟨hspeaker, hresult⟩ := panel_tell wanted p
  rw [Logs, signalled, hspeaker, hresult]
  exact (Beeper.sent_tell h).signals

/-- **The tone comes and goes as the timer wants it**, whatever has been done with the machine and
whichever calls to the console have failed.

**Proof sketch.** The two flags are the same, and stay so because a call changes both or, if it
fails, neither. So the beeper's own flag never keeps back a call that the machine makes, and what
the console has accepted last is what the flags say. -/
theorem Worked.audible (h : m.Worked Panel.speaker d) {console : κ}
    (hd : d.speaker = .ofConsole console) (hconsole : signals console = []) : m.Audible := by
  obtain ⟨hflags, hhonest⟩ := h.beeping hd hconsole
  have hsilent {m : Machine (Panel D K (Beeper κ) R)} (hm : m.Worked Panel.speaker d)
      (hoff : m.soundOn = false) : (accepted m.devices.speaker.console).getLastD 0 = 0 := by
    obtain ⟨hsame, hlast⟩ := hm.beeping hd hconsole
    rw [hlast, ← hsame, hoff]
    exact Beeper.value_silence κ
  refine
    { flags := hflags
      tone := ?_
      soundTick := told_soundTick fun hon => logs_signalled (hflags ▸ hon)
      stop := told_stop fun hon => logs_signalled (hflags ▸ hon)
      stopped := fun hok => hsilent h.stop (soundOn_stop hok)
      run := fun limit fuel time o hrun hok => hsilent (h.run hrun) (soundOn_run hrun hok)
      closed := hhonest.close }
  rw [hhonest, Beeper.value_ne_zero_iff, hflags]

/-! ## A console that fails twice -/

/-- A machine that has just been created, on a console that fails the first and the third time. -/
def croaky : Machine (Panel Scripted.Screen Scripted.Keys (Beeper Scripted.Console) Replay) :=
  fresh.map fun d =>
    ⟨d.display, d.keypad, .ofConsole (Scripted.Console.ofFailing fun n => n == 1 || n == 3),
      d.random⟩

/-- The tone is wanted for two ticks and made in the second. The machine is stopped then, but the
console goes on until it is stopped again. -/
def croakyStopped :
    Machine (Panel Scripted.Screen Scripted.Keys (Beeper Scripted.Console) Replay) :=
  (stop (stop (soundTick (soundTick
    { croaky with cpu := { croaky.cpu with sound := 3 } }).state).state).state).state

theorem Worked.audible_croaky :
    croakyStopped.Audible ∧
      croakyStopped.devices.speaker.console.signals =
        [⟨1491, false⟩, ⟨1491, true⟩, ⟨0, false⟩, ⟨0, true⟩] := by
  have hcreate : Machine.create benchConfig croaky.devices = .ok croaky := rfl
  have hworked : croakyStopped.Worked Panel.speaker croaky.devices :=
    .stop (.stop (.soundTick (.soundTick
      (.editCpu (fun c => { c with sound := 3 }) (.create hcreate)))))
  exact ⟨hworked.audible rfl rfl, by decide⟩

end Machine

end Chip8
