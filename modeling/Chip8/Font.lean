set_option autoImplicit false
set_option relaxedAutoImplicit false

/-!
# The font

Small pictures of the sixteen hexadecimal digits. They lie at the bottom of memory, so that
programs can draw them.

## Main definitions

* `Chip8.Font.glyphs` — the rows of the pictures, one byte a row.
* `Chip8.Font.glyphAddress` — where the picture of a digit lies.
-/

namespace Chip8.Font

/-- Where the pictures begin in memory. -/
def start : UInt16 := 0

/-- The number of rows of a picture. -/
def glyphSize : UInt16 := 5

/-- The address of the picture of a digit. For a number that is no digit it is the address that
such a picture would have. -/
def glyphAddress (digit : UInt8) : UInt16 :=
  start + digit.toUInt16 * glyphSize

/-- The pictures of the digits `0` to `F`, five rows each; the upper four bits of a row are its
pixels. -/
def glyphs : List UInt8 :=
  [0xf0, 0x90, 0x90, 0x90, 0xf0,
    0x20, 0x60, 0x20, 0x20, 0x70,
    0xf0, 0x10, 0xf0, 0x80, 0xf0,
    0xf0, 0x10, 0xf0, 0x10, 0xf0,
    0x90, 0x90, 0xf0, 0x10, 0x10,
    0xf0, 0x80, 0xf0, 0x10, 0xf0,
    0xf0, 0x80, 0xf0, 0x90, 0xf0,
    0xf0, 0x10, 0x20, 0x40, 0x40,
    0xf0, 0x90, 0xf0, 0x90, 0xf0,
    0xf0, 0x90, 0xf0, 0x10, 0xf0,
    0xf0, 0x90, 0xf0, 0x90, 0x90,
    0xe0, 0x90, 0xe0, 0x90, 0xe0,
    0xf0, 0x80, 0x80, 0x80, 0xf0,
    0xe0, 0x90, 0x90, 0x90, 0xe0,
    0xf0, 0x80, 0xf0, 0x80, 0xf0,
    0xf0, 0x80, 0xf0, 0x80, 0x80]

end Chip8.Font
