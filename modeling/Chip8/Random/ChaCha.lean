import Chip8.Nibble
import Chip8.Random.Basic
import Chip8.Row

set_option autoImplicit false
set_option relaxedAutoImplicit false

/-!
# Bytes from a seed

A seed of 64 bits is stretched into a key, and the key into an endless row of words by the ChaCha
function with twelve rounds. Each random byte is the lowest byte of one word.

## Main definitions

* `Chip8.ChaCha.keyOfSeed` — the key for a seed.
* `Chip8.ChaCha.block` — the sixteen words for a key and a block number.
* `Chip8.ChaCha.Stream` — the source of bytes.
-/

namespace Chip8.ChaCha

/-- The word turned left by `n` bits, where `0 < n < 32`. -/
def rotateLeft (w : UInt32) (n : UInt32) : UInt32 :=
  (w <<< n) ||| (w >>> (32 - n))

/-- The word turned right by `n` bits. -/
def rotateRight (w : UInt32) (n : UInt32) : UInt32 :=
  (w >>> n) ||| (w <<< ((32 - n) % 32))

/-- The state of the function: sixteen words. -/
abbrev State := Vector UInt32 16

/-- Mixes the words at four positions. -/
def quarterRound (s : State) (a b c d : Nibble) : State :=
  let xa := s.get a + s.get b
  let xd := rotateLeft (s.get d ^^^ xa) 16
  let xc := s.get c + xd
  let xb := rotateLeft (s.get b ^^^ xc) 12
  let xa := xa + xb
  let xd := rotateLeft (xd ^^^ xa) 8
  let xc := xc + xd
  let xb := rotateLeft (xb ^^^ xc) 7
  Row.replace (Row.replace (Row.replace (Row.replace s a xa) b xb) c xc) d xd

/-- Mixes every column of the four by four words, after row number `r` has been turned left by
`r * turn` places; the words stay where they are. -/
def mixRows (s : State) (turn : Nat) : State :=
  (List.range 4).foldl
    (fun s i =>
      quarterRound s (nibble i) (nibble (4 + (i + turn) % 4)) (nibble (8 + (i + 2 * turn) % 4))
        (nibble (12 + (i + 3 * turn) % 4)))
    s

/-- Two rounds: one mixes the columns of the four by four words, the other the diagonals. -/
def doubleRound (s : State) : State :=
  mixRows (mixRows s 0) 1

/-- The number of double rounds. -/
def doubleRounds : Nat := 6

/-- A key: eight words. -/
abbrev Key := Vector UInt32 8

/-- The state to begin with: four constant words, the key, the number of the block in two words
and two words of zero. -/
def initialState (key : Key) (number : UInt64) : State :=
  #v[0x61707865, 0x3320646e, 0x79622d32, 0x6b206574,
    key[0], key[1], key[2], key[3], key[4], key[5], key[6], key[7],
    number.toUInt32, (number >>> 32).toUInt32, 0, 0]

/-- The words of a block: the mixed state, added to the state to begin with. -/
def block (key : Key) (number : UInt64) : State :=
  let start := initialState key number
  Vector.zipWith (· + ·) start (Nat.repeat doubleRound doubleRounds start)

/-- Word number `n` of the row of words. -/
def wordAt (key : Key) (n : Nat) : UInt32 :=
  (block key (UInt64.ofNat (n / 16))).get (nibble n)

/-- One step of the generator that makes a key out of a seed. -/
def stretch (s : UInt64) : UInt64 :=
  s * 6364136223846793005 + 11634580027462260723

/-- The word of the key that the generator gives in a state: the state is folded to 32 bits, and
these are turned by its highest five bits. -/
def keyWord (s : UInt64) : UInt32 :=
  rotateRight (((s >>> 18) ^^^ s) >>> 27).toUInt32 (s >>> 59).toUInt32

/-- The key for a seed. -/
def keyOfSeed (seed : UInt64) : Key :=
  Vector.ofFn fun i => keyWord (Nat.repeat stretch (i.val + 1) seed)

/-- The row of bytes for a key, from a position on. -/
structure Stream where
  /-- The key. -/
  key : Key
  /-- How many bytes have been handed out. -/
  taken : Nat
  deriving DecidableEq, Repr

namespace Stream

/-- The bytes for a seed, from the first one on. -/
def ofSeed (seed : UInt64) : Stream := ⟨keyOfSeed seed, 0⟩

/-- Byte number `n`: the lowest byte of word number `n`. -/
def byteAt (s : Stream) (n : Nat) : UInt8 :=
  (wordAt s.key n).toUInt8

/-- The same bytes from `n` places further on. -/
def drop (s : Stream) (n : Nat) : Stream := { s with taken := s.taken + n }

instance : RandomSource Stream where
  nextByte s := (s.byteAt s.taken, s.drop 1)

end Stream

end Chip8.ChaCha
