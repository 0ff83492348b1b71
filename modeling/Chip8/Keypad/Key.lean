import Chip8.Nibble

set_option autoImplicit false
set_option relaxedAutoImplicit false

/-!
# Keys

The keypad of the CHIP-8 has sixteen keys, named by the hexadecimal digits. A terminal has many
more, and reports them together with a few other happenings.

## Main definitions

* `Chip8.Key` — a key of the keypad.
* `Chip8.TerminalEvent` — what a terminal reports.
-/

namespace Chip8

/-- A key of the keypad, `0` to `F`. -/
abbrev Key := Nibble

/-- A key and the number of it in a byte. -/
theorem Key.toNat_ofNat (key : Key) : (UInt8.ofNat key.val).toNat = key.val := by
  rw [UInt8.toNat_ofNat']
  omega

/-- The key named by the last four bits of a number. -/
def Key.ofByte (n : UInt8) : Key :=
  nibble n.toNat

@[simp]
theorem Key.ofByte_ofNat (key : Key) : ofByte (UInt8.ofNat key.val) = key := by
  rw [ofByte, toNat_ofNat]
  exact Fin.ext (Nat.mod_eq_of_lt key.isLt)

/-- A key of a terminal that stands for no character. -/
inductive SpecialKey where
  | backspace
  | enter
  | left
  | right
  | up
  | down
  | home
  | end
  | pageUp
  | pageDown
  | tab
  | backTab
  | delete
  | insert
  /-- One of the numbered function keys. -/
  | function (number : Nat)
  deriving DecidableEq, Repr, Inhabited

/-- The name of a key that stands for no character. -/
def SpecialKey.name : SpecialKey → String
  | backspace => "Backspace"
  | enter => "Enter"
  | left => "Left"
  | right => "Right"
  | up => "Up"
  | down => "Down"
  | home => "Home"
  | «end» => "End"
  | pageUp => "PageUp"
  | pageDown => "PageDown"
  | tab => "Tab"
  | backTab => "BackTab"
  | delete => "Delete"
  | insert => "Insert"
  | function number => s!"F({number})"

/-- What a terminal reports. -/
inductive TerminalEvent where
  /-- A key that stands for the character `char`, pressed with or without the control key. -/
  | char (char : Char) (control : Bool)
  /-- The escape key. -/
  | escape
  /-- Any other key. -/
  | special (key : SpecialKey)
  /-- The terminal has changed its size. -/
  | resize
  /-- The mouse was used. -/
  | mouse
  deriving DecidableEq, Repr, Inhabited

end Chip8
