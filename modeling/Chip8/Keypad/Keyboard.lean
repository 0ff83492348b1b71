import Chip8.Keypad.Basic
import Chip8.Row

set_option autoImplicit false
set_option relaxedAutoImplicit false

/-!
# Keyboards

A keypad played on the keyboard of a terminal. A terminal tells when a key goes down but not when
it goes up, so a key counts as held for a while after it was last pressed.

## Main definitions

* `Chip8.Keyboard` — when each key was last pressed, and what the terminal has reported since the
  keyboard was last looked at.
* `Chip8.Keyboard.respond` — what an event of the terminal means.
* `Chip8.Keyboard.poll` — looks at the keyboard.
-/

namespace Chip8

/-- A keypad on the keyboard of a terminal. Times are in nanoseconds. -/
structure Keyboard where
  /-- When each key was last pressed, while it counts as held. -/
  pressedAt : Vector (Option Nat) 16
  /-- The newest press, until it is taken or its key no longer counts as held. -/
  pending : Option Key
  /-- The user wants to leave. -/
  quit : Bool
  /-- What time it is. -/
  now : Nat
  /-- What the terminal has reported since the last look, the oldest event first. -/
  incoming : List TerminalEvent
  /-- How reading these events breaks off after the last of them, if it does. What the terminal
  reports after that waits for another look. -/
  failure : Option String
  deriving DecidableEq, Repr

namespace Keyboard

/-- How long a key counts as held after it was pressed. -/
def holdTime : Nat := 150 * 1000000

/-- The keyboard at time zero, with nothing pressed. -/
def idle : Keyboard := ⟨Vector.replicate 16 none, none, false, 0, [], none⟩

/-- The characters that the keys are played with, from key `0` to key `F`. They lie in the left
part of the keyboard as the keys lie on the keypad. -/
def layout : List Char := "x123qweasdzc4rfv".toList

/-- The key that a character stands for. Capital letters of ASCII count as small ones. -/
def keyOf? (char : Char) : Option Key :=
  (List.finRange 16).find? fun k => layout[k.val]? == some char.toLower

/-- What an event of the terminal means to the keyboard. -/
inductive Response where
  /-- A key is pressed. -/
  | press (key : Key)
  /-- The user wants to leave. -/
  | quit
  /-- Nothing, but notice is given of it. -/
  | refuse (notice : Notice)
  /-- Nothing. -/
  | ignore
  deriving DecidableEq, Repr

/-- The meaning of an event. A small `c` with the control key asks to leave, like the escape key;
with any other character the control key makes no difference. -/
def respond : TerminalEvent → Response
  | .char 'c' true => .quit
  | .char char _ =>
    match keyOf? char with
    | some key => .press key
    | none => .refuse (.unmappedCharacter char)
  | .escape => .quit
  | .special key => .refuse (.unknownKey key)
  | .resize => .ignore
  | .mouse => .refuse .mouse

/-- The notice that is given of an event, if any. -/
def noticeOf (e : TerminalEvent) : Option Notice :=
  match respond e with
  | .refuse notice => some notice
  | _ => none

/-- The keyboard after an event. -/
def react (k : Keyboard) (e : TerminalEvent) : Keyboard :=
  match respond e with
  | .press key =>
    { k with pressedAt := Row.replace k.pressedAt key (some k.now), pending := some key }
  | .quit => { k with quit := true }
  | .refuse _ | .ignore => k

/-- The press of a key at a given time is over by `now`. -/
def stale (now : Nat) (pressed : Option Nat) : Bool :=
  pressed.any fun time => holdTime < now - time

/-- The keyboard without the keys that no longer count as held. A press of such a key that waits
to be taken is forgotten. -/
def expire (k : Keyboard) : Keyboard :=
  { k with
    pressedAt := k.pressedAt.map fun pressed => if stale k.now pressed then none else pressed
    pending := k.pending.filter fun key => !stale k.now (k.pressedAt.get key) }

/-- The keyboard some time later. -/
def wait (k : Keyboard) (time : Nat) : Keyboard := { k with now := k.now + time }

/-- The keyboard after the terminal has reported more events. -/
def deliver (k : Keyboard) (events : List TerminalEvent) : Keyboard :=
  { k with incoming := k.incoming ++ events }

/-- Looks at the keyboard: keys that no longer count as held are let go, and then the events that
have come in are dealt with in order, until reading them breaks off. -/
def poll : Action Keyboard Unit := fun k =>
  ⟨{ k.incoming.foldl react k.expire with incoming := [], failure := none },
    k.failure.elim (.ok ()) fun message => .error (.device message),
    k.incoming.filterMap noticeOf⟩

/-- The key with the number `n` counts as held. -/
def isPressed (k : Keyboard) (n : UInt8) : Bool :=
  if h : n.toNat < 16 then k.pressedAt[n.toNat].isSome else false

/-- The newest press that has not been taken. -/
def takePressed (k : Keyboard) : Option Key × Keyboard :=
  (k.pending, { k with pending := none })

instance : Keypad Keyboard where
  isPressed := isPressed
  takePressed := takePressed
  poll := poll
  quitRequested := Keyboard.quit

end Keyboard

end Chip8
