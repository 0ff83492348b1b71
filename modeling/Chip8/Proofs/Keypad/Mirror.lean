import Chip8.Proofs.Keypad.Latch

set_option autoImplicit false
set_option relaxedAutoImplicit false

/-!
# Switches in place of a keyboard

Switches go down and up when they are told to, while a keyboard knows when its keys were pressed and
lets them go by itself. But switches can stand in for a keyboard: whoever knows what has been done
with the keyboard can tell them at each look which keys go up and which go down, and then nobody who
asks for keys can tell the two apart.

## Main definitions

* `Chip8.Switches.Move`, `Chip8.Switches.move` — what is done with switches.
* `Chip8.Keyboard.Answer`, `Chip8.Keyboard.Act.answer` — what is answered by a keypad.
* `Chip8.Keyboard.moves` — what is done with switches that stand in for a keyboard.
* `Chip8.Keyboard.Mirrors` — a keyboard and switches that cannot be told apart.
* `Chip8.Keypad.Backed` — the key of a press that waits is held.

## Main results

* `Chip8.Keyboard.mirrors_after` — anything that is done leaves switches and keyboard alike.
* `Chip8.Keyboard.answers_eq_mirrored` — switches in place of a keyboard.
-/

namespace Chip8

open Keypad (waiting?)

/-- If a press waits to be taken, its key is held. -/
def Keypad.Backed {K : Type} [Keypad K] (k : K) : Prop :=
  ∀ key : Key, waiting? k = some key → Keypad.isPressed k (UInt8.ofNat key.val) = true

/-! ## Switches -/

namespace Switches

/-- One thing that is done with switches. -/
inductive Move where
  /-- The key with a number goes down. -/
  | press (n : UInt8)
  /-- The key with a number goes up. -/
  | release (n : UInt8)
  /-- The newest press is taken. -/
  | take
  deriving DecidableEq, Repr

/-- The switches after something has been done with them. -/
def move (s : Switches) : Move → Switches
  | .press n => s.press n
  | .release n => s.release n
  | .take => s.takePressed.2

/-- The switches with some keys pressed: the last one waits to be taken. -/
lemma foldl_press (s : Switches) (keys : List Key) :
    let pressed := (keys.map fun key => Move.press (UInt8.ofNat key.val)).foldl move s
    pressed.pending = keys.getLast?.or s.pending ∧
      ∀ key, pressed.down.get key = (decide (key ∈ keys) || s.down.get key) := by
  induction keys using List.reverseRecOn with
  | nil => simp
  | append_singleton keys key ih =>
    rw [List.map_append, List.map_singleton, List.foldl_append, List.foldl_cons, List.foldl_nil]
    refine ⟨by simp [move, press], fun key' => ?_⟩
    rw [move, press, Key.ofByte_ofNat, Row.get_replace, ih.2]
    by_cases h : key = key' <;> simp [h, eq_comm]

/-- The switches with some keys released: a press of one of them no longer waits. -/
lemma foldl_release (s : Switches) (keys : List Key) :
    let released := (keys.map fun key => Move.release (UInt8.ofNat key.val)).foldl move s
    released.pending = s.pending.filter (· ∉ keys) ∧
      ∀ key, released.down.get key = (s.down.get key && decide (key ∉ keys)) := by
  induction keys using List.reverseRecOn with
  | nil =>
    refine ⟨?_, by simp⟩
    cases h : s.pending <;> simp [h, Option.filter]
  | append_singleton keys key ih =>
    rw [List.map_append, List.map_singleton, List.foldl_append, List.foldl_cons, List.foldl_nil]
    constructor
    · rw [move, release, Key.ofByte_ofNat, ih.1]
      cases s.pending with
      | none => rfl
      | some waiting =>
        by_cases h : waiting = key <;> by_cases h' : waiting ∈ keys <;> simp [h, h', Option.filter]
    · intro key'
      rw [move, release, Key.ofByte_ofNat, Row.get_replace, ih.2]
      by_cases h : key = key' <;> simp [h, eq_comm]

/-- The key with a number is down if it is one of the sixteen and its switch is down. -/
lemma isPressed_key (s : Switches) (key : Key) :
    s.isPressed (UInt8.ofNat key.val) = s.down.get key := by
  have hkey := key.toNat_ofNat
  have hlt : (UInt8.ofNat key.val).toNat < 16 := by
    rw [hkey]
    exact key.isLt
  rw [isPressed, dif_pos hlt]
  simp only [hkey]
  rfl

lemma backed_iff (s : Switches) :
    Keypad.Backed s ↔ ∀ key, s.pending = some key → s.down.get key = true := by
  rw [Keypad.Backed]
  refine forall_congr' fun key => ?_
  rw [← s.isPressed_key key]
  rfl

/-- No move leaves a press waiting whose key is up. -/
lemma backed_move {s : Switches} (h : Keypad.Backed s) (m : Move) : Keypad.Backed (s.move m) := by
  rw [backed_iff] at h ⊢
  intro waiting hwaiting
  cases m with
  | press n =>
    obtain rfl : Key.ofByte n = waiting := Option.some.inj hwaiting
    exact Row.get_replace_self _ _ _
  | release n =>
    have hpending :
        (if s.pending = some (Key.ofByte n) then Option.none else s.pending) = some waiting :=
      hwaiting
    split at hpending
    · cases hpending
    · rename_i hother
      have hne : Key.ofByte n ≠ waiting := fun heq => hother (heq ▸ hpending)
      exact (Row.get_replace _ _ _ _).trans ((if_neg hne).trans (h waiting hpending))
  | take => cases hwaiting

lemma backed_foldl_move {s : Switches} (h : Keypad.Backed s) (moves : List Move) :
    Keypad.Backed (moves.foldl move s) := by
  induction moves generalizing s with
  | nil => exact h
  | cons m moves ih => exact ih (backed_move h m)

/-- Switches are backed whatever has been done with them. -/
lemma backed_ofList (numbers : List UInt8) : Keypad.Backed (ofList numbers) := by
  have hnone : Keypad.Backed none := by
    rw [backed_iff]
    rintro key ⟨⟩
  have hpress := backed_foldl_move hnone (numbers.map .press)
  rwa [List.foldl_map] at hpress

end Switches

/-! ## Standing in for a keyboard -/

namespace Keyboard

/-- What a keypad answers. -/
inductive Answer where
  /-- Nothing, as it was not asked. -/
  | silence
  /-- The key is held, or is not. -/
  | held (down : Bool)
  /-- The press that is taken, if any. -/
  | taken (key : Option Key)
  deriving DecidableEq, Repr

/-- What a keypad answers when this is done with it. -/
def Act.answer {K : Type} [Keypad K] (k : K) : Act → Answer
  | .look _ _ _ => .silence
  | .take => .taken (Keypad.takePressed k).1
  | .ask n => .held (Keypad.isPressed k n)

/-- What a keyboard answers when one thing after the other is done with it. -/
def answers : Keyboard → List Act → List Answer
  | _, [] => []
  | k, a :: acts => a.answer k :: answers (k.after a) acts

/-- The keys that were pressed last more than 150 milliseconds before the next look. -/
def outdated (past : List Act) (later : Nat) : List Key :=
  (List.finRange 16).filter fun key =>
    (latest? past key).any fun time => 150 * 1000000 < clock past + later - time

/-- What is done with switches in place of a keyboard with the history `past`. At a look, the keys
that were pressed too long ago go up, and those that the events press go down. -/
def moves (past : List Act) : Act → List Switches.Move
  | .look later events _ =>
    ((outdated past later).map fun key => .release (UInt8.ofNat key.val)) ++
      (events.filterMap pressOf?).map fun key => .press (UInt8.ofNat key.val)
  | .take => [.take]
  | .ask _ => []

/-- What is answered by switches in place of a keyboard with the history `past`, when one thing
after the other is done. -/
def mirrored : (past : List Act) → Switches → List Act → List Answer
  | _, _, [] => []
  | past, s, a :: acts => a.answer s :: mirrored (past ++ [a]) ((moves past a).foldl .move s) acts

/-- Keyboard and switches cannot be told apart: the same keys are held, and the same press waits. -/
structure Mirrors (k : Keyboard) (s : Switches) : Prop where
  /-- A key is down while the keyboard knows when it was pressed. -/
  down : ∀ key, s.down.get key = (k.pressedAt.get key).isSome
  /-- The same press waits to be taken. -/
  pending : s.pending = k.pending

lemma mirrors_idle : Mirrors idle .none where
  down key := by
    have hup : Switches.none.down.get key = false := Vector.getElem_replicate key.isLt
    have hlong : idle.pressedAt.get key = none := Vector.getElem_replicate key.isLt
    rw [hup, hlong]
    rfl
  pending := rfl

variable {k : Keyboard} {s : Switches} {past : List Act}

/-- A key that the keyboard still holds is let go at the next look if it is outdated by then. -/
lemma Remembers.stale_eq (h : Remembers k past) {key : Key}
    (hheld : (k.pressedAt.get key).isSome = true) (later : Nat) :
    stale (k.now + later) (k.pressedAt.get key) = decide (key ∈ outdated past later) := by
  have hsame : k.pressedAt.get key = latest? past key := by
    rw [h.pressedAt] at hheld ⊢
    obtain ⟨time, htime⟩ := Option.isSome_iff_exists.mp hheld
    rw [htime, (Option.filter_eq_some_iff.mp htime).1]
  have hstale : stale (clock past + later) (latest? past key) =
      (latest? past key).any fun time => 150 * 1000000 < clock past + later - time := rfl
  rw [hsame, h.now, hstale]
  simp [outdated]

namespace Mirrors

lemma isPressed (h : Mirrors k s) (n : UInt8) : k.isPressed n = s.isPressed n := by
  rw [Keyboard.isPressed, Switches.isPressed]
  split
  · rename_i hn
    exact (h.down ⟨n.toNat, hn⟩).symm
  · rfl

/-- What cannot be told apart gives the same answers. -/
lemma answer (h : Mirrors k s) (a : Act) : a.answer k = a.answer s := by
  cases a with
  | look later events failure => rfl
  | take => exact congrArg Answer.taken h.pending.symm
  | ask n => exact congrArg Answer.held (h.isPressed n)

/-- At a look, the keys that the keyboard lets go go up, and those that are pressed go down. -/
lemma look (h : Mirrors k s) (hk : Remembers k past) (later : Nat) (events : List TerminalEvent)
    (failure : Option String) :
    Mirrors (k.look later events failure)
      ((moves past (.look later events failure)).foldl .move s) := by
  obtain ⟨-, -, hpending, -, hpressed⟩ := look_eq hk.incoming later events failure
  set released := ((outdated past later).map fun key =>
    Switches.Move.release (UInt8.ofNat key.val)).foldl .move s
  obtain ⟨hkept, hstill⟩ : released.pending = _ ∧ _ :=
    Switches.foldl_release s (outdated past later)
  obtain ⟨hnewest, hdown⟩ := Switches.foldl_press released (events.filterMap pressOf?)
  rw [moves, List.foldl_append]
  constructor
  · intro key
    rw [hdown, hstill, hpressed, h.down]
    by_cases hmem : key ∈ events.filterMap pressOf?
    · simp [hmem]
    · cases hheld : (k.pressedAt.get key).isSome with
      | false =>
        rw [Option.isSome_eq_false_iff, Option.isNone_iff_eq_none] at hheld
        simp [hmem, hheld, stale]
      | true =>
        rw [if_neg hmem, hk.stale_eq hheld]
        by_cases hold : key ∈ outdated past later <;> simp [hmem, hold, hheld]
  · rw [hnewest, hkept, hpending, h.pending]
    congr 1
    cases hwaiting : k.pending with
    | none => rfl
    | some key =>
      obtain ⟨-, -, hholds⟩ := (hk.pending key).mp hwaiting
      have hstale := hk.stale_eq (hk.isSome_pressedAt_iff.mpr hholds) later
      simp [Option.filter, hstale]

end Mirrors

/-- **Anything that is done leaves switches and keyboard alike.** -/
theorem mirrors_after (h : Mirrors k s) (hk : Remembers k past) (a : Act) :
    Mirrors (k.after a) ((moves past a).foldl .move s) := by
  cases a with
  | look later events failure => exact h.look hk later events failure
  | take => exact ⟨h.down, rfl⟩
  | ask n => exact h

lemma answers_eq (h : Mirrors k s) (hk : Remembers k past) (acts : List Act) :
    k.answers acts = mirrored past s acts := by
  induction acts generalizing k s past with
  | nil => rfl
  | cons a acts ih =>
    rw [answers, mirrored, h.answer, ih (mirrors_after h hk a) (remembers_after hk a)]

/-- The key of a press that waits on a keyboard counts as held. -/
lemma Remembers.backed (h : Remembers k past) : Keypad.Backed k := by
  intro key hwaiting
  obtain ⟨-, -, hholds⟩ := (h.pending key).mp hwaiting
  exact (h.isPressed_key_iff key).mpr hholds

/-- **Switches in place of a keyboard.** Take switches that are all up, and at each look at the
keyboard release every key that was pressed last more than 150 milliseconds before, and then press
the keys of the events in their order, until reading them breaks off. Whatever is done, they are
asked the same and answer the same as the keyboard. On the keyboard, and on switches with which
anything at all has been done, the key of a press that waits to be taken is held.

**Proof sketch.** Keyboard and switches are alike when nothing has happened yet, and stay so with
anything that is done. A key that the keyboard has let go before is outdated as well, but it is up
already and no press of it waits. -/
theorem answers_eq_mirrored :
    (∀ acts, idle.answers acts = mirrored [] .none acts) ∧
      (∀ acts, Keypad.Backed (replay acts)) ∧
      ∀ (numbers : List UInt8) (moves : List Switches.Move),
        Keypad.Backed (moves.foldl .move (Switches.ofList numbers)) :=
  ⟨answers_eq mirrors_idle remembers_idle, fun acts => (remembers_replay acts).backed,
    fun numbers => Switches.backed_foldl_move (Switches.backed_ofList numbers)⟩

/-- Two keys are pressed, and one of them again before it would have been let go. -/
example :
    mirrored [] .none
      [.look 7 [.char '1' false, .char 'q' false] none, .look holdTime [.char '1' false] none,
        .look 1 [] none, .ask 1, .ask 4, .take] =
      [.silence, .silence, .silence, .held true, .held false, .taken (some 1)] := by
  decide +kernel

end Keyboard

end Chip8
