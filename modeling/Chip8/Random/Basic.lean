set_option autoImplicit false
set_option relaxedAutoImplicit false

/-!
# Sources of random bytes

## Main definitions

* `Chip8.RandomSource` — what the machine asks of a source of random bytes.
* `Chip8.Replay` — the source that hands out given bytes round and round.
-/

namespace Chip8

/-- A source of random bytes, as the machine sees it. -/
class RandomSource (δ : Type) where
  /-- The next byte. -/
  nextByte : δ → UInt8 × δ

/-- Given bytes, handed out round and round. -/
structure Replay where
  /-- The bytes. -/
  bytes : List UInt8
  /-- How many bytes have been handed out. -/
  taken : Nat
  deriving DecidableEq, Repr

namespace Replay

/-- The given bytes, with none handed out yet. -/
def ofList (bytes : List UInt8) : Replay := ⟨bytes, 0⟩

/-- Byte number `n` of the endless repetition; zero when there are no bytes to repeat. -/
def byteAt (r : Replay) (n : Nat) : UInt8 :=
  r.bytes.getD (n % r.bytes.length) 0

instance : RandomSource Replay where
  nextByte r := (r.byteAt r.taken, { r with taken := r.taken + 1 })

end Replay

/-- Either of two sources. -/
instance {α β : Type} [RandomSource α] [RandomSource β] : RandomSource (α ⊕ β) where
  nextByte
    | .inl a => let (b, a) := RandomSource.nextByte a; (b, .inl a)
    | .inr a => let (b, a) := RandomSource.nextByte a; (b, .inr a)

end Chip8
