import Chip8.Display.Basic

set_option autoImplicit false
set_option relaxedAutoImplicit false

/-!
# Frames

A frame is a picture of lit and unlit pixels, one bit each. The pixels are numbered row by row and
packed eight to a byte, the first in the highest bit; a row may begin in the middle of a byte.
Coordinates wrap round on both axes, so every pair of numbers is a place in the picture.

## Main definitions

* `Chip8.Frame` — the packed pixels, with a mark for a picture that has changed.
* `Chip8.Frame.get`, `Chip8.Frame.toggle` — one pixel by its coordinates.
* `Chip8.Frame.plane` — the coordinates of all lit, or of all unlit, pixels.
* `Chip8.Frame.litCount` — the number of lit pixels.
-/

namespace Chip8

/-- The number of bytes that hold `pixels` bits. -/
def packedSize (pixels : Nat) : Nat := (pixels + 7) / 8

/-- The bit of pixel number `k` within its byte. -/
def pixelMask (k : Nat) : UInt8 := 0x80 >>> UInt8.ofNat (k % 8)

/-- The number of bits that are set in a byte. -/
def bitCount (b : UInt8) : Nat :=
  (List.range 8).countP b.toNat.testBit

/-- A picture of `width` by `height` pixels. -/
structure Frame where
  /-- The number of columns. -/
  width : Nat
  /-- The number of rows. -/
  height : Nat
  /-- There is at least one column. -/
  width_pos : 0 < width
  /-- There is at least one row. -/
  height_pos : 0 < height
  /-- The pixels, packed. -/
  bytes : Vector UInt8 (packedSize (width * height))
  /-- The picture has changed since it was last shown. -/
  dirty : Bool
  deriving Repr

namespace Frame

/-- The picture of the given size with all pixels unlit. It has not been shown yet. -/
def blank (width height : Nat) (hw : 0 < width) (hh : 0 < height) : Frame :=
  ⟨width, height, hw, hh, Vector.replicate _ 0, true⟩

/-- The unlit picture of the given size; it fails when that size has no pixels. -/
def create (width height : Nat) : Except Fault Frame :=
  if h : 0 < width ∧ 0 < height then .ok (blank width height h.1 h.2)
  else .error (.invalid (.emptyDisplay width height))

/-- The unlit picture of the size that the CHIP-8 has: 64 by 32 pixels. -/
def standard : Frame := blank 64 32 (by decide) (by decide)

/-- The number of pixels. -/
abbrev area (f : Frame) : Nat := f.width * f.height

/-- The number of the pixel at column `x` and row `y`, both wrapped round. -/
def position (f : Frame) (x y : Nat) : Nat :=
  y % f.height * f.width + x % f.width

theorem position_lt (f : Frame) (x y : Nat) : f.position x y < f.area := by
  have hx : x % f.width < f.width := Nat.mod_lt _ f.width_pos
  have hy : y % f.height + 1 ≤ f.height := Nat.mod_lt _ f.height_pos
  have := Nat.mul_le_mul_right f.width hy
  rw [Nat.add_mul, Nat.one_mul] at this
  rw [area, Nat.mul_comm f.width]
  unfold position
  omega

theorem div_lt_packedSize {k n : Nat} (h : k < n) : k / 8 < packedSize n := by
  unfold packedSize
  omega

/-- Pixel number `k` is lit. -/
def bit (f : Frame) (k : Nat) (h : k < f.area) : Bool :=
  have := div_lt_packedSize h
  f.bytes[k / 8] &&& pixelMask k != 0

/-- The pixel at column `x` and row `y` is lit. -/
def get (f : Frame) (x y : Nat) : Bool :=
  f.bit (f.position x y) (f.position_lt x y)

/-- The picture with pixel number `k` inverted. -/
def flip (f : Frame) (k : Nat) (h : k < f.area) : Frame :=
  have := div_lt_packedSize h
  { f with bytes := f.bytes.set (k / 8) (f.bytes[k / 8] ^^^ pixelMask k), dirty := true }

/-- The picture with the pixel at column `x` and row `y` inverted. -/
def toggle (f : Frame) (x y : Nat) : Frame :=
  f.flip (f.position x y) (f.position_lt x y)

/-- Inverts the pixel at column `x` and row `y` if `bit` is set, and tells whether it was lit. A
bit that is not set changes nothing, not even the mark for a change. -/
def draw (f : Frame) (x y : Nat) (bit : Bool) : Bool × Frame :=
  if bit then (f.get x y, f.toggle x y) else (false, f)

/-- The picture with all pixels unlit. -/
def clear (f : Frame) : Frame :=
  { f with bytes := Vector.replicate _ 0, dirty := true }

/-- Whether the picture has changed, and the picture with the mark taken off. -/
def takeDirty (f : Frame) : Bool × Frame :=
  (f.dirty, { f with dirty := false })

/-- The number of lit pixels. -/
def litCount (f : Frame) : Nat :=
  f.bytes.toList.foldr (fun b count => bitCount b + count) 0

/-- The coordinates of all pixels that are lit, or of all that are not, row by row. On the second
axis numbers fall from zero downwards, as on a canvas whose origin is its top left corner. -/
def plane (f : Frame) (lit : Bool) : List (Int × Int) :=
  ((List.finRange f.area).filter fun k => f.bit k.val k.isLt == lit).map fun k =>
    (((k.val % f.width : Nat) : Int), -((k.val / f.width : Nat) : Int))

instance : Display Frame where
  clear := clear
  draw := draw
  present := pure ()

end Frame

end Chip8
