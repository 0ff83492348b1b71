import Chip8.Text.Hex
import Chip8.Text.Unseen

set_option autoImplicit false
set_option relaxedAutoImplicit false

/-!
# Quoted characters

A single character as it is shown in a message: between single quotes, with whatever would not
be seen, or would be mistaken for the quotes, written as an escape.

## Main definitions

* `Chip8.Quoted.escape` — how one character is written inside the quotes.
* `Chip8.Quoted.char` — the character with its quotes.
-/

namespace Chip8.Quoted

/-- A control character: the first thirty-two, the delete character and the thirty-two after it. -/
def isControl (c : Char) : Bool :=
  c.toNat < 0x20 || (0x7f ≤ c.toNat && c.toNat < 0xa0)

/-- The writing of `c` inside single quotes. The quote and the backslash get a backslash, four
common control characters a letter or a digit, and whatever else is not seen by itself its
number. -/
def escape (c : Char) : String :=
  match c with
  | '\x00' => "\\0"
  | '\t' => "\\t"
  | '\n' => "\\n"
  | '\r' => "\\r"
  | '\'' => "\\'"
  | '\\' => "\\\\"
  | c =>
    if isControl c || Unseen.mem c then "\\u\x7b" ++ Hex.digits c.toNat ++ "\x7d"
    else c.toString

/-- The character `c` between single quotes. -/
def char (c : Char) : String :=
  "'" ++ escape c ++ "'"

end Chip8.Quoted
