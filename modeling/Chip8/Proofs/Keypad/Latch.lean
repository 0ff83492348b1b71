import Mathlib.Data.List.Perm.Subperm
import Chip8.Keypad.Switches
import Chip8.Proofs.Keypad.History

set_option autoImplicit false
set_option relaxedAutoImplicit false

/-!
# Presses that wait to be taken

A keypad keeps its newest press until it is taken. A press may be withdrawn before that, when its
key goes up or has been held for too long, but it is never taken twice: whoever writes down all
presses, and which of them have been taken, finds the taken ones in order and each of them once.

## Main definitions

* `Chip8.Keypad.waiting?` — the press that waits to be taken.
* `Chip8.Latch` — keypads on which no press waits but the newest.
* `Chip8.Ledger` — the presses, those that have been taken and the one that waits.

## Main results

* `Chip8.Ledger.press`, `Chip8.Ledger.take` — how the ledger is kept.
* `Chip8.Ledger.length_taken_le` — no more presses are taken than there were.
-/

namespace Chip8

variable {K : Type} [Keypad K]

/-- The press that waits to be taken. -/
def Keypad.waiting? (k : K) : Option Key := (Keypad.takePressed k).1

open Keypad (waiting?)

/-- A keypad on which no press waits but the newest, and that one only until it is taken. -/
class Latch (K : Type) [Keypad K] where
  /-- What can befall the keypad from outside. -/
  Event : Type
  /-- The keypad after something has befallen it. -/
  befall : K → Event → K
  /-- The keys that are pressed by an event, in order. -/
  pressedBy : Event → List Key
  /-- The keys that are pressed when the keypad is looked at, in order. -/
  found : K → List Key
  /-- What waits after an event is the last press by it, or waited before. -/
  waiting_befall : ∀ k e key, waiting? (befall k e) = some key →
    (pressedBy e).getLast?.or (waiting? k) = some key
  /-- What waits after a look is the last press that it has found, or waited before. -/
  waiting_poll : ∀ k key, waiting? (Keypad.poll k).state = some key →
    (found k).getLast?.or (waiting? k) = some key
  /-- What is taken does not wait any longer. -/
  waiting_take : ∀ k : K, waiting? (Keypad.takePressed k).2 = none

/-! ## Switches and keyboards -/

/-- What can befall switches. -/
inductive Switches.Event where
  /-- The key with a number goes down. -/
  | press (n : UInt8)
  /-- The key with a number goes up. -/
  | release (n : UInt8)
  deriving DecidableEq, Repr

/-- Switches are pressed from outside, and nothing is found by looking at them. -/
instance : Latch Switches where
  Event := Switches.Event
  befall s
    | .press n => s.press n
    | .release n => s.release n
  pressedBy
    | .press n => [Key.ofByte n]
    | .release _ => []
  found _ := []
  waiting_befall s e key h := by
    cases e with
    | press n => exact h
    | release n =>
      have hpending : (if s.pending = some (Key.ofByte n) then none else s.pending) = some key := h
      split at hpending
      · cases hpending
      · exact hpending
  waiting_poll _ _ h := h
  waiting_take _ := rfl

/-- What can befall a keyboard: time goes by, and then the terminal reports something. -/
structure Keyboard.Event where
  /-- The time that goes by. -/
  later : Nat
  /-- What the terminal reports, the oldest event first. -/
  events : List TerminalEvent
  /-- How reading breaks off at the next look, if it does. -/
  failure : Option String
  deriving DecidableEq, Repr

/-- The presses on a keyboard are found by looking at it. -/
instance : Latch Keyboard where
  Event := Keyboard.Event
  befall k e := { (k.wait e.later).deliver e.events with failure := e.failure }
  pressedBy _ := []
  found k := k.incoming.filterMap Keyboard.pressOf?
  waiting_befall _ _ _ h := h
  waiting_poll k key h := by
    have hpending : (k.incoming.foldl Keyboard.react k.expire).pending = some key := h
    rw [(Keyboard.foldl_react_eq k.expire k.incoming).2.2.1] at hpending
    rcases hlast : (k.incoming.filterMap Keyboard.pressOf?).getLast? with _ | newest <;>
      rw [hlast] at hpending
    · exact (Option.filter_eq_some_iff.mp hpending).1
    · exact hpending
  waiting_take _ := rfl

/-! ## Ledgers -/

/-- All presses in order, those of them that have been taken, by their numbers and each with the
number of its key, and the press that waits to be taken. -/
structure Ledger (presses : List Key) (taken : List (Nat × UInt8)) (waiting : Option Key) :
    Prop where
  /-- What has been taken is a press. -/
  numbered : ∀ p ∈ taken, ∃ key, presses[p.1]? = some key ∧ p.2 = UInt8.ofNat key.val
  /-- Each press is newer than those that were taken before. -/
  increasing : taken.Pairwise fun p q => p.1 < q.1
  /-- What waits is the newest press, and has not been taken. -/
  newest : ∀ key, waiting = some key →
    presses.getLast? = some key ∧ ∀ p ∈ taken, p.1 + 1 < presses.length

namespace Ledger

variable {presses : List Key} {taken : List (Nat × UInt8)} {waiting waiting' : Option Key}

lemma nil : Ledger [] [] none where
  numbered _ hp := by cases hp
  increasing := .nil
  newest _ h := by cases h

/-- What has been taken has its number among the presses. -/
lemma lt_length (h : Ledger presses taken waiting) {p : Nat × UInt8} (hp : p ∈ taken) :
    p.1 < presses.length := by
  obtain ⟨key, hkey, -⟩ := h.numbered p hp
  exact (List.getElem?_eq_some_iff.mp hkey).1

/-- Keys are pressed, if any. The last of them waits now, or nothing does, or else what waits has
waited before. -/
lemma press (h : Ledger presses taken waiting) (keys : List Key)
    (hwaiting : ∀ key, waiting' = some key → keys.getLast?.or waiting = some key) :
    Ledger (presses ++ keys) taken waiting' where
  numbered p hp := by
    obtain ⟨key, hkey, hvalue⟩ := h.numbered p hp
    exact ⟨key, by rw [List.getElem?_append_left (h.lt_length hp), hkey], hvalue⟩
  increasing := h.increasing
  newest key hkey := by
    have hor := hwaiting key hkey
    rw [List.getLast?_append, List.length_append]
    rcases hlast : keys.getLast? with _ | newest <;> rw [hlast] at hor
    · obtain ⟨hnewest, hlater⟩ := h.newest key hor
      exact ⟨hnewest, fun p hp => Nat.lt_add_right _ (hlater p hp)⟩
    · have hpos : 0 < keys.length := List.length_pos_of_mem (List.mem_of_getLast? hlast)
      refine ⟨hor, fun p hp => ?_⟩
      have hlt := h.lt_length hp
      omega

/-- The press that waits is taken. -/
lemma take (h : Ledger presses taken waiting) {key : Key} (hkey : waiting = some key) :
    Ledger presses (taken ++ [(presses.length - 1, UInt8.ofNat key.val)]) none := by
  obtain ⟨hlast, hlater⟩ := h.newest key hkey
  refine ⟨fun p hp => ?_, ?_, fun _ h => by cases h⟩
  · rcases List.mem_append.mp hp with hold | hnew
    · exact h.numbered p hold
    · obtain rfl := List.mem_singleton.mp hnew
      exact ⟨key, by rw [← List.getLast?_eq_getElem?, hlast], rfl⟩
  · rw [List.pairwise_append]
    refine ⟨h.increasing, List.pairwise_singleton _ _, fun p hp q hq => ?_⟩
    obtain rfl := List.mem_singleton.mp hq
    have hlt := hlater p hp
    omega

/-- **No more presses are taken than there were.** -/
theorem length_taken_le (h : Ledger presses taken waiting) : taken.length ≤ presses.length := by
  have hnodup : (taken.map Prod.fst).Nodup :=
    List.pairwise_map.mpr (h.increasing.imp Nat.ne_of_lt)
  have hsubset : taken.map Prod.fst ⊆ List.range presses.length := by
    intro n hn
    obtain ⟨p, hp, rfl⟩ := List.mem_map.mp hn
    exact List.mem_range.mpr (h.lt_length hp)
  have hle := (hnodup.subperm hsubset).length_le
  rwa [List.length_map, List.length_range] at hle

end Ledger

end Chip8
