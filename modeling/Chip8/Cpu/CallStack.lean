set_option autoImplicit false
set_option relaxedAutoImplicit false

/-!
# The call stack

Sixteen slots for return addresses, of which the first few are in use. A slot that is no longer
in use keeps its old address until it is used again, or until the whole stack is cleared.

## Main definitions

* `Chip8.CallStack` — the slots and the number of slots in use.
* `Chip8.CallStack.held` — the addresses in use, the oldest one first.
* `Chip8.CallStack.push?`, `Chip8.CallStack.pop?` — one more call and one return.

## Main results

* `Chip8.CallStack.held_push?`, `Chip8.CallStack.held_pop?` — a call and a return, told by the
  addresses in use.
-/

namespace Chip8

/-- The number of slots of the call stack. -/
def CallStack.capacity : Nat := 16

/-- Return addresses, in slots that are used from the first one on. -/
structure CallStack where
  /-- The slots, including those not in use. -/
  slots : Vector UInt16 CallStack.capacity
  /-- The number of slots in use. -/
  depth : Nat
  /-- No more slots are in use than there are. -/
  depth_le : depth ≤ CallStack.capacity
  deriving DecidableEq, Repr

namespace CallStack

/-- The stack with no slot in use and all slots zero. -/
def empty : CallStack := ⟨Vector.replicate capacity 0, 0, by decide⟩

/-- The addresses in use, the oldest one first. -/
def held (s : CallStack) : List UInt16 :=
  s.slots.toList.take s.depth

/-- One more address in use; none when no slot is free. -/
def push? (s : CallStack) (address : UInt16) : Option CallStack :=
  if h : s.depth < capacity then
    some ⟨s.slots.set s.depth address h, s.depth + 1, h⟩
  else none

/-- The newest address, and the stack without it; none when no slot is in use. -/
def pop? (s : CallStack) : Option (UInt16 × CallStack) :=
  match h : s.depth with
  | 0 => none
  | n + 1 =>
    have hn : n < capacity := Nat.lt_of_succ_le (h ▸ s.depth_le)
    some (s.slots[n], ⟨s.slots, n, Nat.le_of_lt hn⟩)

/-- The stack with the given addresses in use instead. Slots behind them keep their old
addresses, and addresses that find no free slot are left out. -/
def refill (s : CallStack) (addresses : List UInt16) : CallStack :=
  addresses.foldl (fun t a => (t.push? a).getD t) ⟨s.slots, 0, Nat.zero_le _⟩

theorem length_held (s : CallStack) : s.held.length = s.depth := by
  simp [held, s.depth_le]

/-- A call puts its address behind those in use, and finds a slot exactly when one is free. -/
theorem held_push? (s : CallStack) (address : UInt16) :
    (s.push? address).map held =
      if s.depth < capacity then some (s.held ++ [address]) else none := by
  unfold push?
  split
  · have h : (s.slots.toList.take s.depth).set s.depth address = s.slots.toList.take s.depth :=
      List.set_eq_of_length_le (by rw [List.length_take]; exact Nat.min_le_left _ _)
    simp [held, List.take_add_one, Vector.toList_set, List.take_set, *]
  · rfl

/-- A return takes the last of the addresses in use, and fails exactly when there is none. -/
theorem held_pop? (s : CallStack) :
    (s.pop?).map (fun p => p.2.held ++ [p.1]) = if s.depth = 0 then none else some s.held := by
  unfold pop?
  split
  · rename_i h
    simp [h]
  · rename_i n h
    have hn : n < capacity := Nat.lt_of_succ_le (h ▸ s.depth_le)
    simp [held, h, List.take_add_one, hn]

end CallStack

end Chip8
