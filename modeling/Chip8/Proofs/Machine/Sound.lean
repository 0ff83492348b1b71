import Chip8.Proofs.Devices.Listener
import Chip8.Proofs.Machine.Map

set_option autoImplicit false
set_option relaxedAutoImplicit false

/-!
# The flag for the speaker

A machine keeps a flag that says whether its speaker makes the tone, and calls the speaker only when
the flag is to change. Calls fail at any time and in any pattern, and the sound timer is set and
counts down in between; all the same the flag is right, no call is made in vain, and none that
failed is forgotten.

## Main definitions

* `Chip8.Machine.Attentive` — all that a machine and the list of the calls to its speaker have to
  do with each other.

## Main results

* `Chip8.Machine.Told.again` — a call that failed is made again when it is wanted again.
* `Chip8.Machine.Worked.sounding` — the flag follows the calls that succeeded.
* `Chip8.Machine.Worked.attentive` — the speaker is told what the timer wants.
-/

namespace Chip8.Machine

open Chip8.Listener (called logs_calls obeyed sounding Alternates unheard speakerPart_calls)

variable {δ : Type} [Devices δ] {d : δ} {m : Machine (Listener δ)} {wanted on : Bool}

/-- What telling the speaker preserves: the flag is what the list of calls says, in which no call is
made in vain. -/
lemma sounding_tell (wanted : Bool) (m : Machine (Listener δ))
    (h : m.soundOn = sounding m.devices.calls ∧ Alternates m.devices.calls) :
    (tell wanted m).state.soundOn = sounding (tell wanted m).state.devices.calls ∧
      Alternates (tell wanted m).state.devices.calls := by
  obtain ⟨hflag, halternates⟩ := h
  have htold := told_tell fun _ : m.soundOn ≠ wanted => logs_calls wanted m.devices
  have hcalls := htold.calls
  by_cases hon : m.soundOn = wanted
  · rw [if_pos hon, List.append_nil] at hcalls
    rw [hcalls]
    refine ⟨?_, halternates⟩
    cases hresult : (tell wanted m).result with
    | ok => rw [htold.ok hresult, ← hflag, hon]
    | error fault => exact absurd hon (htold.error fault hresult).1
  · rw [if_neg hon] at hcalls
    rw [hcalls, Listener.sounding_concat]
    refine ⟨?_, halternates.concat _ _ (hflag ▸ hon)⟩
    cases hresult : (tell wanted m).result with
    | ok =>
      rw [htold.ok hresult]
      rfl
    | error fault =>
      rw [(htold.error fault hresult).2, hflag]
      rfl

/-- **The flag follows the calls that succeeded**, whatever has been done with the machine, and no
call has been made in vain. -/
theorem Worked.sounding (h : m.Worked Listener.calls (unheard d)) :
    m.soundOn = Listener.sounding m.devices.calls ∧ Alternates m.devices.calls :=
  h.induct (Q := fun on calls => on = Listener.sounding calls ∧ Alternates calls)
    speakerPart_calls ⟨rfl, .nil⟩ sounding_tell

/-! ## Ticks, stops and runs -/

omit [Devices δ] in
/-- A call that failed is made again when it is wanted again, and only then. -/
lemma Told.again {o : Outcome (Machine (Listener δ)) Unit}
    (h : Told Listener.calls called wanted m o) (hm : m.soundOn = !on) : o.state.devices.calls =
      m.devices.calls ++ if wanted = on then [⟨on, !o.result.isOk⟩] else [] := by
  rw [h.calls, hm]
  cases wanted <;> cases on <;> rfl

/-- All that a machine and the list of the calls to its speaker have to do with each other. -/
structure Attentive (m : Machine (Listener δ)) : Prop where
  /-- The flag is set if the last call that succeeded was for the tone. -/
  flag : m.soundOn = (obeyed m.devices.calls).getLastD false
  /-- The calls that succeeded take turns, the first being for the tone. -/
  turns : ∀ n on, (obeyed m.devices.calls)[n]? = some on → on = (n % 2 == 0)
  /-- A tick of the sound clock has the speaker as the timer wants it when it has counted down. -/
  soundTick : Told Listener.calls called m.wantsSound m (soundTick m)
  /-- After a tick of the sound clock that succeeds, the flag is set as long as the timer runs. -/
  timer : (Machine.soundTick m).result = .ok () →
    (Machine.soundTick m).state.soundOn = decide (0 < (Machine.soundTick m).state.cpu.sound)
  /-- To stop has the speaker off. -/
  stop : Told Listener.calls called false m (stop m)
  /-- A call that failed is made again by the next tick that wants it, and by no other. -/
  tickAgain : ∀ on, m.devices.calls.getLast? = some ⟨on, true⟩ →
    (Machine.soundTick m).state.devices.calls = m.devices.calls ++
      if m.wantsSound = on then [⟨on, !(Machine.soundTick m).result.isOk⟩] else []
  /-- A call that failed is made again by a stop that wants it, and by no other. -/
  stopAgain : ∀ on, m.devices.calls.getLast? = some ⟨on, true⟩ →
    (Machine.stop m).state.devices.calls = m.devices.calls ++
      if false = on then [⟨on, !(Machine.stop m).result.isOk⟩] else []
  /-- The ticks of the other clocks do not call the speaker. -/
  others : ∀ t ≠ .sound,
    (m.turn t).soundOn = m.soundOn ∧ (m.turn t).devices.calls = m.devices.calls
  /-- Neither does starting the clocks, or a new program. -/
  quiet : ∀ now feed, (start now m).state.devices = m.devices ∧
    (load feed m).state.devices = m.devices
  /-- To advance calls the speaker as the ticks that are due do, one after the other. -/
  advance : ∀ now, ∃ clocks,
    (advanceTo now m).state = (m.turns ((eventsTo now m).map Event.tick)).setClocks clocks
  /-- After a stop that succeeds the speaker is off. -/
  silent : (Machine.stop m).result = .ok () → sounding (Machine.stop m).state.devices.calls = false
  /-- After a run by itself that succeeds the speaker is off. -/
  run : ∀ limit fuel time o, m.run? limit fuel = some (time, o) → o.result = .ok () →
    o.state.soundOn = false ∧ sounding o.state.devices.calls = false

/-- **The speaker is told what the timer wants**, once and not in vain, whatever has been done with
the machine before and whichever calls have failed.

**Proof sketch.** The flag is set and cleared together with the calls that succeed, which is a
matter of each single call. A call that failed has left the flag as it was, so that the flag says
the opposite of what the call was for, and the call is made again as soon as it is wanted. -/
theorem Worked.attentive (h : m.Worked Listener.calls (unheard d)) : m.Attentive := by
  obtain ⟨hflag, halternates⟩ := h.sounding
  have hfailed (on : Bool) (hlast : m.devices.calls.getLast? = some ⟨on, true⟩) :
      m.soundOn = !on := by
    obtain ⟨earlier, hcalls⟩ := List.getLast?_eq_some_iff.mp hlast
    rw [hflag, hcalls]
    exact Alternates.sounding_of_failed (hcalls ▸ halternates)
  refine
    { flag := hflag
      turns := fun n on => halternates.getElem?_obeyed
      soundTick := told_soundTick fun _ => logs_calls _ _
      timer := soundOn_soundTick
      stop := told_stop fun _ => logs_calls _ _
      tickAgain := fun on hlast => (told_soundTick fun _ => logs_calls _ _).again (hfailed on hlast)
      stopAgain := fun on hlast => (told_stop fun _ => logs_calls _ _).again (hfailed on hlast)
      others := fun t ht => speaker_turn speakerPart_calls ht m
      quiet := fun _ _ => ⟨rfl, rfl⟩
      advance := fun now => ⟨_, state_advanceTo now m⟩
      silent := fun hok => ?_
      run := fun limit fuel time o hrun hok => ?_ }
  · rw [← h.stop.sounding.1]
    exact soundOn_stop hok
  · have hoff := soundOn_run hrun hok
    exact ⟨hoff, (h.run hrun).sounding.1 ▸ hoff⟩

/-! ## A speaker that fails at first -/

/-- A machine that has just been created, with a speaker that fails the first time it is called. -/
def hoarse : Machine (Listener (Panel Scripted.Screen Scripted.Keys Scripted.Buzzer Replay)) :=
  fresh.map fun d => unheard { d with speaker := .ofFailing (· == 1) }

/-- The tone is wanted for two ticks, and the first call for it fails. -/
def hoarseTwice : Machine (Listener (Panel Scripted.Screen Scripted.Keys Scripted.Buzzer Replay)) :=
  (soundTick (soundTick { hoarse with cpu := { hoarse.cpu with sound := 3 } }).state).state

theorem Worked.attentive_hoarse :
    hoarseTwice.Attentive ∧ hoarseTwice.soundOn = true ∧
      hoarseTwice.devices.calls = [⟨true, true⟩, ⟨true, false⟩] := by
  have hcreate : Machine.create benchConfig hoarse.devices = .ok hoarse := rfl
  have hworked : hoarseTwice.Worked Listener.calls (unheard hoarse.devices.devices) :=
    .soundTick (.soundTick (.editCpu (fun c => { c with sound := 3 }) (.create hcreate)))
  exact ⟨hworked.attentive, by decide, by decide⟩

end Chip8.Machine
