import Chip8.Keypad.Basic
import Chip8.Row

set_option autoImplicit false
set_option relaxedAutoImplicit false

/-!
# Switches

The simplest keypad: keys that go down and up when they are told to.

## Main definitions

* `Chip8.Switches` — the keys that are down, and the press that waits to be taken.
* `Chip8.Switches.press`, `Chip8.Switches.release` — one key goes down or up.
-/

namespace Chip8

/-- Sixteen keys, each down or up. -/
structure Switches where
  /-- The keys that are down. -/
  down : Vector Bool 16
  /-- The newest press, until it is taken or its key goes up. -/
  pending : Option Key
  deriving DecidableEq, Repr

namespace Switches

/-- All keys up. -/
def none : Switches := ⟨Vector.replicate 16 false, .none⟩

/-- The key with the number `n` goes down. Only the last four bits of the number count. -/
def press (s : Switches) (n : UInt8) : Switches :=
  let key := Key.ofByte n
  { s with down := Row.replace s.down key true, pending := some key }

/-- The key with the number `n` goes up; only its last four bits count. A press of the key that
waits to be taken is forgotten. -/
def release (s : Switches) (n : UInt8) : Switches :=
  let key := Key.ofByte n
  { s with
    down := Row.replace s.down key false
    pending := if s.pending = some key then .none else s.pending }

/-- The keys with the given numbers down, pressed one after the other. -/
def ofList (numbers : List UInt8) : Switches :=
  numbers.foldl press none

/-- The key with the number `n` is down. There is none with a number above fifteen. -/
def isPressed (s : Switches) (n : UInt8) : Bool :=
  if h : n.toNat < 16 then s.down[n.toNat] else false

/-- The newest press that has not been taken. -/
def takePressed (s : Switches) : Option Key × Switches :=
  (s.pending, { s with pending := .none })

instance : Keypad Switches where
  isPressed := isPressed
  takePressed := takePressed
  poll := pure ()
  quitRequested _ := false

end Switches

end Chip8
