import Mathlib.Algebra.GroupWithZero.Nat
import Mathlib.Data.List.Induction
import Mathlib.Order.Fin.Basic
import Mathlib.Tactic.Lemma
import Chip8.Keypad.Keyboard

set_option autoImplicit false
set_option relaxedAutoImplicit false

/-!
# What a keyboard remembers

A keyboard is looked at from time to time, and in between its newest press is taken or it is asked
whether a key is held. All that it answers can be read off the history of the events that the
terminal has reported, each with the time of the look at which it was dealt with.

## Main definitions

* `Chip8.Keyboard.pressOf?`, `Chip8.Keyboard.asksToLeave` — the events that mean something.
* `Chip8.Keyboard.Act`, `Chip8.Keyboard.replay` — what is done with a keyboard, and what becomes of
  it.
* `Chip8.Keyboard.clock`, `Chip8.Keyboard.handled`, `Chip8.Keyboard.presses` — the history.
* `Chip8.Keyboard.Untaken` — the newest press has not been taken.
* `Chip8.Keyboard.Remembers` — a keyboard and a history that belong together.

## Main results

* `Chip8.Keyboard.foldl_react_eq` — what the events of one look come to.
* `Chip8.Keyboard.remembers_after` — anything that is done leaves keyboard and history together.
* `Chip8.Keyboard.answers_replay` — what a keyboard answers.
-/

namespace Chip8.Keyboard

/-! ## What events mean -/

/-- The key that an event presses, if any. A small `c` with the control key presses none. -/
def pressOf? : TerminalEvent → Option Key
  | .char char control => if char = 'c' ∧ control then none else keyOf? char
  | _ => none

/-- The event asks to leave: the escape key, or a small `c` with the control key. -/
def asksToLeave : TerminalEvent → Bool
  | .escape => true
  | .char char control => char = 'c' ∧ control
  | _ => false

/-- A key is played with the character at its place, and with the capital letter as well. -/
lemma keyOf?_eq_some_iff {char : Char} {key : Key} :
    keyOf? char = some key ↔ layout[key.val]? = some char.toLower := by
  have hdistinct : ∀ k l : Key, layout[k.val]? = layout[l.val]? → k = l := by decide
  rw [keyOf?]
  constructor
  · intro h
    simpa using List.find?_some h
  · intro h
    cases hfind : (List.finRange 16).find? fun k => layout[k.val]? == some char.toLower with
    | none =>
      have hmissing := List.find?_eq_none.mp hfind key (List.mem_finRange key)
      simp [h] at hmissing
    | some key' =>
      have hkey' := List.find?_some hfind
      rw [hdistinct key' key ((beq_iff_eq.mp hkey').trans h.symm)]

/-- The events that press a key are characters that it is played with, but for a small `c` with the
control key. -/
lemma pressOf?_eq_some_iff {e : TerminalEvent} {key : Key} :
    pressOf? e = some key ↔ ∃ char control, e = .char char control ∧
      ¬(char = 'c' ∧ control = true) ∧ layout[key.val]? = some char.toLower := by
  cases e with
  | char char control =>
    rw [pressOf?]
    constructor
    · intro h
      split at h
      · cases h
      · exact ⟨char, control, rfl, ‹_›, keyOf?_eq_some_iff.mp h⟩
    · rintro ⟨_, _, ⟨rfl, rfl⟩, hstay, hkey⟩
      rw [if_neg hstay]
      exact keyOf?_eq_some_iff.mpr hkey
  | _ => simp [pressOf?]

/-- The events that ask to leave are the escape key and a small `c` with the control key. -/
lemma asksToLeave_iff {e : TerminalEvent} :
    asksToLeave e = true ↔ e = .escape ∨ e = .char 'c' true := by
  cases e <;> simp [asksToLeave]

/-- What asks to leave presses no key. -/
lemma asksToLeave_of_pressOf? {e : TerminalEvent} {key : Key} (h : pressOf? e = some key) :
    asksToLeave e = false := by
  obtain ⟨char, control, rfl, hstay, -⟩ := pressOf?_eq_some_iff.mp h
  exact decide_eq_false hstay

/-- An event presses a key, asks to leave, or changes nothing. -/
lemma react_eq (k : Keyboard) (e : TerminalEvent) :
    react k e =
      match pressOf? e with
      | some key =>
        { k with pressedAt := Row.replace k.pressedAt key (some k.now), pending := some key }
      | none => { k with quit := k.quit || asksToLeave e } := by
  cases e with
  | char char control =>
    by_cases hleave : char = 'c' ∧ control
    · obtain ⟨rfl, rfl⟩ := hleave
      simp [react, respond, pressOf?, asksToLeave]
    · have hrespond : respond (.char char control) =
          match keyOf? char with
          | some key => .press key
          | none => .refuse (.unmappedCharacter char) := by
        unfold respond
        split <;> rename_i heq <;> cases heq
        · exact absurd ⟨rfl, rfl⟩ hleave
        · cases keyOf? char <;> rfl
      simp only [react, hrespond, pressOf?, if_neg hleave, asksToLeave]
      cases keyOf? char <;> simp [hleave]
  | escape => simp [react, respond, pressOf?, asksToLeave]
  | special => simp [react, respond, pressOf?, asksToLeave]
  | resize => simp [react, respond, pressOf?, asksToLeave]
  | mouse => simp [react, respond, pressOf?, asksToLeave]

/-- **What the events of one look come to.** The keys that they press are held from now on, and the
newest press is the last of them. -/
theorem foldl_react_eq (k : Keyboard) (es : List TerminalEvent) :
    (es.foldl react k).now = k.now ∧ (es.foldl react k).incoming = k.incoming ∧
      (es.foldl react k).pending = (es.filterMap pressOf?).getLast?.or k.pending ∧
      (es.foldl react k).quit = (k.quit || es.any asksToLeave) ∧
      ∀ key, (es.foldl react k).pressedAt.get key =
        if key ∈ es.filterMap pressOf? then some k.now else k.pressedAt.get key := by
  induction es using List.reverseRecOn with
  | nil => simp
  | append_singleton es e ih =>
    obtain ⟨hnow, hincoming, hpending, hquit, hpressed⟩ := ih
    rw [List.foldl_append, List.foldl_cons, List.foldl_nil, react_eq, List.filterMap_append]
    cases hpress : pressOf? e with
    | none =>
      refine ⟨hnow, hincoming, ?_, ?_, ?_⟩
      · simpa [hpress] using hpending
      · simp [hquit, Bool.or_assoc]
      · simpa [hpress] using hpressed
    | some key =>
      have hstay : asksToLeave e = false := asksToLeave_of_pressOf? hpress
      refine ⟨hnow, hincoming, ?_, ?_, ?_⟩
      · simp [hpress]
      · simp [hquit, hstay]
      · intro key'
        simp only [Row.get_replace, hpressed, hnow, List.filterMap_cons, hpress,
          List.filterMap_nil, List.mem_append, List.mem_singleton]
        grind

/-- Events are dealt with in the same way whatever else has come in, and however that ends. -/
lemma foldl_react_incoming (k : Keyboard) (es incoming : List TerminalEvent)
    (failure : Option String) :
    { es.foldl react k with incoming := incoming, failure := failure } =
      es.foldl react { k with incoming := incoming, failure := failure } := by
  induction es generalizing k with
  | nil => rfl
  | cons e es ih =>
    rw [List.foldl_cons, List.foldl_cons, ih, react_eq, react_eq]
    cases pressOf? e <;> rfl

/-- A look at the keyboard some time later, with events that the terminal has reported since.
Reading them may break off after the last. -/
def look (k : Keyboard) (later : Nat) (events : List TerminalEvent) (failure : Option String) :
    Keyboard :=
  (poll { (k.wait later).deliver events with failure := failure }).state

lemma look_eq_foldl (k : Keyboard) (later : Nat) (events : List TerminalEvent)
    (failure : Option String) : k.look later events failure =
      (k.incoming ++ events).foldl react
        { (k.wait later).expire with incoming := [], failure := none } :=
  foldl_react_incoming _ (k.incoming ++ events) [] none

/-! ## Histories -/

/-- One thing that is done with a keyboard. -/
inductive Act where
  /-- It is looked at some time later, when the terminal has reported these events. The look fails
  if reading them breaks off after the last. -/
  | look (later : Nat) (events : List TerminalEvent) (failure : Option String)
  /-- Its newest press is taken. -/
  | take
  /-- It is asked whether the key with this number is held. -/
  | ask (n : UInt8)
  deriving DecidableEq, Repr

namespace Act

/-- The time that goes by first. -/
def later : Act → Nat
  | look later _ _ => later
  | take | ask _ => 0

/-- The events that are dealt with. -/
def events : Act → List TerminalEvent
  | look _ events _ => events
  | take | ask _ => []

end Act

/-- The keyboard after something has been done with it. -/
def after (k : Keyboard) : Act → Keyboard
  | .look later events failure => k.look later events failure
  | .take => k.takePressed.2
  | .ask _ => k

/-- What has become of an idle keyboard. -/
def replay (acts : List Act) : Keyboard := acts.foldl after idle

/-- The time of the last look. -/
def clock (acts : List Act) : Nat := (acts.map Act.later).sum

/-- The events that have been dealt with, each with the time of the look at which it was, when the
last look before was at the time `start`. -/
def handledFrom : (start : Nat) → List Act → List (Nat × TerminalEvent)
  | _, [] => []
  | start, a :: acts =>
    a.events.map ((start + a.later, ·)) ++ handledFrom (start + a.later) acts

/-- The events that have been dealt with, each with the time of the look at which it was. -/
def handled (acts : List Act) : List (Nat × TerminalEvent) := handledFrom 0 acts

/-- The key presses among the events, each with its time. -/
def presses (acts : List Act) : List (Nat × Key) :=
  (handled acts).filterMap fun (time, e) => (pressOf? e).map (time, ·)

/-- The time of the latest press of a key. -/
def latest? (acts : List Act) (key : Key) : Option Nat :=
  ((presses acts).filter (·.2 = key)).getLast?.map Prod.fst

/-- The key of the newest press of all. -/
def newest? (acts : List Act) : Option Key := (presses acts).getLast?.map Prod.snd

/-- A key counts as held at a time: its latest press is not too long ago. -/
def Holds (acts : List Act) (key : Key) : Prop :=
  ∃ time, latest? acts key = some time ∧ clock acts - time ≤ holdTime

/-- The newest press has not been taken: whenever one was taken, a key has been pressed since. -/
def Untaken (acts : List Act) : Prop :=
  ∀ earlier since, acts = earlier ++ .take :: since →
    (presses earlier).length < (presses acts).length

section Concat

variable (acts : List Act) (a : Act)

lemma replay_concat : replay (acts ++ [a]) = (replay acts).after a := by
  simp [replay]

lemma clock_concat : clock (acts ++ [a]) = clock acts + a.later := by
  simp [clock]

lemma handledFrom_append (start : Nat) (acts acts' : List Act) :
    handledFrom start (acts ++ acts') =
      handledFrom start acts ++ handledFrom (start + clock acts) acts' := by
  induction acts generalizing start with
  | nil => simp [handledFrom, clock]
  | cons a acts ih =>
    simp only [List.cons_append, handledFrom, ih, List.append_assoc, clock, List.map_cons,
      List.sum_cons, Nat.add_assoc]

lemma handled_concat :
    handled (acts ++ [a]) = handled acts ++ a.events.map ((clock acts + a.later, ·)) := by
  simp [handled, handledFrom_append, handledFrom]

lemma presses_concat :
    presses (acts ++ [a]) =
      presses acts ++ (a.events.filterMap pressOf?).map ((clock acts + a.later, ·)) := by
  rw [presses, handled_concat, List.filterMap_append, List.filterMap_map, List.map_filterMap]
  rfl

lemma latest?_concat (key : Key) :
    latest? (acts ++ [a]) key =
      if key ∈ a.events.filterMap pressOf? then some (clock acts + a.later)
      else latest? acts key := by
  rw [latest?, presses_concat, List.filter_append, List.getLast?_append, List.filter_map]
  generalize a.events.filterMap pressOf? = keys
  have hkey : keys.filter ((fun p : Nat × Key => decide (p.2 = key)) ∘ (clock acts + a.later, ·)) =
      List.replicate (keys.count key) key :=
    List.filter_eq key
  rw [hkey, List.map_replicate, List.getLast?_replicate]
  by_cases hmem : key ∈ keys
  · rw [if_neg (Nat.pos_iff_ne_zero.mp (List.count_pos_iff.mpr hmem)), if_pos hmem]
    rfl
  · rw [if_pos (List.count_eq_zero.mpr hmem), if_neg hmem]
    rfl

lemma newest?_concat :
    newest? (acts ++ [a]) = (a.events.filterMap pressOf?).getLast?.or (newest? acts) := by
  rw [newest?, presses_concat, List.getLast?_append, Option.map_or]
  simp [newest?, Function.comp_def]

lemma length_presses_le (acts acts' : List Act) :
    (presses acts).length ≤ (presses (acts ++ acts')).length := by
  rw [presses, presses, handled, handled, handledFrom_append, List.filterMap_append,
    List.length_append]
  exact Nat.le_add_right _ _

/-- Anything but taking leaves the newest press as taken or untaken as it was, unless it brings
another. -/
lemma untaken_concat {a : Act} (ha : a ≠ .take) :
    Untaken (acts ++ [a]) ↔ a.events.filterMap pressOf? ≠ [] ∨ Untaken acts := by
  have hlength : (presses (acts ++ [a])).length =
      (presses acts).length + (a.events.filterMap pressOf?).length := by
    rw [presses_concat, List.length_append, List.length_map]
  rw [← List.length_pos_iff]
  constructor
  · intro h
    by_cases hnew : 0 < (a.events.filterMap pressOf?).length
    · exact .inl hnew
    · refine .inr fun earlier since hacts => ?_
      have hlt := h earlier (since ++ [a]) (by simp [hacts])
      omega
  · intro h earlier since hacts
    rcases List.eq_nil_or_concat since with rfl | ⟨since', a', rfl⟩
    · obtain ⟨-, htake⟩ := List.append_inj' hacts rfl
      cases htake
      exact absurd rfl ha
    · have hsplit : acts ++ [a] = (earlier ++ .take :: since') ++ [a'] := by simpa using hacts
      obtain ⟨hacts', -⟩ := List.append_inj' hsplit rfl
      have hle := length_presses_le earlier (.take :: since')
      rw [← hacts'] at hle
      rcases h with hnew | hbefore
      · omega
      · have hlt := hbefore earlier since' hacts'
        omega

/-- A press that is taken is not untaken. -/
lemma not_untaken_take : ¬ Untaken (acts ++ [.take]) := by
  intro h
  have hlt := h acts [] rfl
  rw [presses_concat] at hlt
  simp [Act.events] at hlt

end Concat

/-! ## Keyboards with their histories -/

/-- The keyboard has the history. -/
structure Remembers (k : Keyboard) (acts : List Act) : Prop where
  /-- It is as late as it was at the last look. -/
  now : k.now = clock acts
  /-- All events have been dealt with. -/
  incoming : k.incoming = []
  /-- The wish to leave was uttered by one of the events. -/
  quit : k.quit = (handled acts).any fun p => asksToLeave p.2
  /-- Each key has been pressed when it was pressed last, unless that is too long ago. -/
  pressedAt : ∀ key, k.pressedAt.get key =
    (latest? acts key).filter fun time => clock acts - time ≤ holdTime
  /-- The newest press waits to be taken while its key counts as held. -/
  pending : ∀ key, k.pending = some key ↔ newest? acts = some key ∧ Untaken acts ∧ Holds acts key

lemma remembers_idle : Remembers idle [] where
  now := rfl
  incoming := rfl
  quit := rfl
  pressedAt key := Vector.getElem_replicate key.isLt
  pending key := by simp [idle, newest?, presses, handled, handledFrom]

/-- What a look at a keyboard comes to. -/
lemma look_eq {k : Keyboard} (hk : k.incoming = []) (later : Nat) (events : List TerminalEvent)
    (failure : Option String) :
    (k.look later events failure).now = k.now + later ∧
      (k.look later events failure).incoming = [] ∧
      (k.look later events failure).pending = (events.filterMap pressOf?).getLast?.or
        (k.pending.filter fun key => !stale (k.now + later) (k.pressedAt.get key)) ∧
      (k.look later events failure).quit = (k.quit || events.any asksToLeave) ∧
      ∀ key, (k.look later events failure).pressedAt.get key =
        if key ∈ events.filterMap pressOf? then some (k.now + later)
        else if stale (k.now + later) (k.pressedAt.get key) then none else k.pressedAt.get key := by
  obtain ⟨hnow, hincoming, hpending, hquit, hpressed⟩ :=
    foldl_react_eq { (k.wait later).expire with incoming := [], failure := none } events
  rw [look_eq_foldl, hk, List.nil_append]
  refine ⟨hnow, hincoming, hpending, hquit, fun key => (hpressed key).trans ?_⟩
  congr 1
  exact Vector.getElem_map _ key.isLt

variable {k : Keyboard} {acts : List Act}

/-- A press that is let go when it has become too old has been known only while it was not. -/
lemma filter_filter_stale (pressed : Option Nat) (now later : Nat) :
    (if stale (now + later) (pressed.filter fun time => now - time ≤ holdTime) then none
      else pressed.filter fun time => now - time ≤ holdTime) =
      pressed.filter fun time => now + later - time ≤ holdTime := by
  cases pressed with
  | none => rfl
  | some time =>
    by_cases hbefore : now - time ≤ holdTime
    · by_cases hafter : now + later - time ≤ holdTime
      · have hfresh : ¬ holdTime < now + later - time := Nat.not_lt.mpr hafter
        simp [Option.filter, stale, hbefore, hafter]
      · have hstale : holdTime < now + later - time := Nat.lt_of_not_le hafter
        simp [Option.filter, stale, hbefore, hafter, hstale]
    · have hafter : ¬ now + later - time ≤ holdTime := by omega
      simp [Option.filter, stale, hbefore, hafter]

lemma holds_iff {key : Key} : Holds acts key ↔
    ((latest? acts key).filter fun time => clock acts - time ≤ holdTime).isSome = true := by
  rw [Holds]
  cases latest? acts key <;> simp [Option.filter]

namespace Remembers

/-- A key counts as held as long as the keyboard knows when it was pressed. -/
lemma isSome_pressedAt_iff (h : Remembers k acts) {key : Key} :
    (k.pressedAt.get key).isSome = true ↔ Holds acts key := by
  rw [h.pressedAt, holds_iff]

/-- What a look at the keyboard finds goes together with what it has found before. -/
lemma look (h : Remembers k acts) (later : Nat) (events : List TerminalEvent)
    (failure : Option String) :
    Remembers (k.look later events failure) (acts ++ [.look later events failure]) := by
  obtain ⟨hnow, hincoming, hpending, hquit, hpressed⟩ := look_eq h.incoming later events failure
  have hclock : clock (acts ++ [.look later events failure]) = clock acts + later :=
    clock_concat _ _
  have hlatest (key : Key) := latest?_concat acts (.look later events failure) key
  have hnewest := newest?_concat acts (.look later events failure)
  have huntaken := untaken_concat acts (a := .look later events failure) (by simp)
  have hpressedAt (key : Key) : (k.look later events failure).pressedAt.get key =
      (latest? (acts ++ [.look later events failure]) key).filter fun time =>
        clock (acts ++ [.look later events failure]) - time ≤ holdTime := by
    rw [hpressed, hlatest, hclock, h.pressedAt, h.now, filter_filter_stale]
    by_cases hmem : key ∈ events.filterMap pressOf?
    · rw [if_pos hmem, Act.events, if_pos hmem]
      simp [Option.filter, Act.later]
    · rw [if_neg hmem, Act.events, if_neg hmem]
  refine ⟨by rw [hnow, h.now, hclock], hincoming, ?_, hpressedAt, fun key => ?_⟩
  · rw [hquit, h.quit, handled_concat, List.any_append, List.any_map]
    rfl
  · have hholds : Holds (acts ++ [.look later events failure]) key ↔
        ((k.look later events failure).pressedAt.get key).isSome = true := by
      rw [hpressedAt, holds_iff]
    rw [hpending, hnewest, huntaken, hholds, hpressed, Act.events]
    rcases hlast : (events.filterMap pressOf?).getLast? with _ | newest
    · -- no key has been pressed, and the newest press waits on unless it has become too old
      rw [List.getLast?_eq_none_iff.mp hlast, Option.none_or, Option.none_or,
        Option.filter_eq_some_iff, h.pending]
      have hheld : (k.pressedAt.get key).isSome = true ↔ Holds acts key := h.isSome_pressedAt_iff
      cases stale (k.now + later) (k.pressedAt.get key) <;> simp [hheld]
    · have hmem : newest ∈ events.filterMap pressOf? := List.mem_of_getLast? hlast
      rw [Option.some_or, Option.some_or]
      constructor
      · rintro ⟨rfl⟩
        exact ⟨rfl, .inl (List.ne_nil_of_mem hmem), by rw [if_pos hmem]; rfl⟩
      · exact And.left

lemma take (h : Remembers k acts) : Remembers k.takePressed.2 (acts ++ [.take]) where
  now := h.now.trans (clock_concat acts .take).symm
  incoming := h.incoming
  quit := h.quit.trans (by simp [handled_concat, Act.events])
  pressedAt key := by
    have hclock : clock (acts ++ [.take]) = clock acts := clock_concat acts .take
    have hlatest : latest? (acts ++ [.take]) key = latest? acts key := by
      simp [latest?_concat, Act.events]
    rw [hlatest, hclock]
    exact h.pressedAt key
  pending key := by
    constructor
    · rintro ⟨⟩
    · rintro ⟨-, huntaken, -⟩
      exact absurd huntaken (not_untaken_take acts)

lemma ask (h : Remembers k acts) (n : UInt8) : Remembers k (acts ++ [.ask n]) := by
  have hclock : clock (acts ++ [.ask n]) = clock acts := clock_concat acts (.ask n)
  have hlatest (key : Key) : latest? (acts ++ [.ask n]) key = latest? acts key := by
    simp [latest?_concat, Act.events]
  refine ⟨h.now.trans hclock.symm, h.incoming, ?_, fun key => ?_, fun key => ?_⟩
  · simpa [handled_concat, Act.events] using h.quit
  · rw [hlatest, hclock]
    exact h.pressedAt key
  · rw [newest?_concat, untaken_concat acts (by simp), Holds, hlatest, hclock, h.pending]
    simp [Act.events, Holds]

end Remembers

/-- **Anything that is done leaves keyboard and history together.** -/
theorem remembers_after (h : Remembers k acts) (a : Act) : Remembers (k.after a) (acts ++ [a]) := by
  cases a with
  | look later events failure => exact h.look later events failure
  | take => exact h.take
  | ask n => exact h.ask n

lemma remembers_replay (acts : List Act) : Remembers (replay acts) acts := by
  induction acts using List.reverseRecOn with
  | nil => exact remembers_idle
  | append_singleton acts a ih =>
    rw [replay_concat]
    exact remembers_after ih a

/-! ## Events without a meaning -/

/-- The event presses a key or asks to leave. -/
def heeds (e : TerminalEvent) : Bool := (pressOf? e).isSome || asksToLeave e

/-- The same, with only those events reported that press a key or ask to leave. -/
def Act.heeded : Act → Act
  | .look later events failure => .look later (events.filter heeds) failure
  | .take => .take
  | .ask n => .ask n

lemma react_of_not_heeds (k : Keyboard) {e : TerminalEvent} (he : heeds e = false) :
    react k e = k := by
  rw [heeds, Bool.or_eq_false_iff] at he
  rw [react_eq, Option.not_isSome_iff_eq_none.mp (Bool.eq_false_iff.mp he.1), he.2]
  simp

lemma foldl_react_filter (k : Keyboard) (es : List TerminalEvent) :
    (es.filter heeds).foldl react k = es.foldl react k := by
  rw [List.foldl_filter]
  congr 1
  funext k e
  cases he : heeds e with
  | false => simp [react_of_not_heeds k he]
  | true => rfl

lemma after_heeded (k : Keyboard) (a : Act) : k.after a.heeded = k.after a := by
  cases a with
  | look later events failure =>
    rw [Act.heeded, after, after, look_eq_foldl, look_eq_foldl, List.foldl_append,
      List.foldl_append, foldl_react_filter]
  | take => rfl
  | ask n => rfl

/-- **Events that neither press a key nor ask to leave change nothing.** -/
theorem replay_heeded (acts : List Act) : replay (acts.map Act.heeded) = replay acts := by
  rw [replay, List.foldl_map]
  simp only [after_heeded]
  rfl

/-! ## What is answered -/

/-- What a keyboard answers after its history. -/
structure Answers (acts : List Act) : Prop where
  /-- The key with a number is held if it is one of the sixteen, and was pressed last no more than
  the hold time before the last look. -/
  isPressed : ∀ n, (replay acts).isPressed n = true ↔ ∃ key : Key, n.toNat = key.val ∧
    ∃ time, latest? acts key = some time ∧ clock acts - time ≤ holdTime
  /-- The press that waits to be taken is the newest of all, which has not been taken since, and
  whose key is held. -/
  takePressed : ∀ key, (replay acts).takePressed.1 = some key ↔
    newest? acts = some key ∧ Untaken acts ∧ (replay acts).isPressed (UInt8.ofNat key.val) = true
  /-- A press that is taken is newer than all that were taken before. -/
  once : ∀ earlier since key key', acts = earlier ++ .take :: since →
    (replay earlier).takePressed.1 = some key → (replay acts).takePressed.1 = some key' →
    (presses earlier).length < (presses acts).length
  /-- The user wants to leave as soon as there was an event that asked to. -/
  quit : (replay acts).quit = true ↔
    ∃ time e, (time, e) ∈ handled acts ∧ (e = .escape ∨ e = .char 'c' true)
  /-- All other events are as good as none. -/
  heeded : replay (acts.map Act.heeded) = replay acts

lemma Remembers.isPressed_iff (h : Remembers k acts) (n : UInt8) :
    k.isPressed n = true ↔ ∃ key : Key, n.toNat = key.val ∧ Holds acts key := by
  rw [isPressed]
  split
  · rename_i hn
    constructor
    · intro hheld
      exact ⟨⟨n.toNat, hn⟩, rfl, h.isSome_pressedAt_iff.mp hheld⟩
    · rintro ⟨key, hkey, hheld⟩
      obtain rfl : key = ⟨n.toNat, hn⟩ := Fin.ext hkey.symm
      exact h.isSome_pressedAt_iff.mpr hheld
  · rename_i hn
    constructor
    · rintro ⟨⟩
    · rintro ⟨key, hkey, -⟩
      exact absurd (hkey ▸ key.isLt) hn

lemma Remembers.isPressed_key_iff (h : Remembers k acts) (key : Key) :
    k.isPressed (UInt8.ofNat key.val) = true ↔ Holds acts key := by
  rw [h.isPressed_iff, Key.toNat_ofNat]
  constructor
  · rintro ⟨key', hsame, hheld⟩
    rwa [Fin.ext hsame]
  · exact fun hheld => ⟨key, rfl, hheld⟩

/-- **What a keyboard answers** is written in the events that it was told of. Which events press
which key is written in the layout: the character at the place of the key, or its capital letter,
with or without the control key, but for a small `c` with the control key, which presses none.

**Proof sketch.** Keyboard and history belong together when nothing has happened yet, and stay so
with anything that is done. A key that is let go at a look has been pressed too long ago for every
later look, and its press is no longer waiting by then. -/
theorem answers_replay (acts : List Act) :
    Answers acts ∧
      (∀ e key, pressOf? e = some key ↔ ∃ char control, e = .char char control ∧
        ¬(char = 'c' ∧ control = true) ∧ layout[key.val]? = some char.toLower) ∧
      pressOf? (.char 'c' true) = none := by
  have h := remembers_replay acts
  refine ⟨?_, fun e key => pressOf?_eq_some_iff, by simp [pressOf?]⟩
  refine
    { isPressed := h.isPressed_iff
      takePressed := fun key => ?_
      once := fun earlier since key key' hacts _ htaken => ?_
      quit := ?_
      heeded := replay_heeded acts }
  · rw [h.isPressed_key_iff]
    exact h.pending key
  · obtain ⟨-, huntaken, -⟩ := (h.pending key').mp htaken
    exact huntaken earlier since hacts
  · rw [h.quit, List.any_eq_true]
    simp only [asksToLeave_iff, Prod.exists]

/-- A key that is pressed as a capital letter is held to the last nanosecond. -/
example :
    let pressed : Act := .look 7 [.char 'Q' false] none
    (replay [pressed, .take, .look holdTime [.mouse] none]).isPressed 4 = true ∧
      (replay [pressed, .take, .look (holdTime + 1) [] none]).isPressed 4 = false := by
  decide +kernel

end Chip8.Keyboard
