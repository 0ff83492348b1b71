import Chip8.Action
import Chip8.Cpu.Basic
import Chip8.Font
import Chip8.Row

set_option autoImplicit false
set_option relaxedAutoImplicit false

/-!
# Memory

The machine has 4096 bytes of memory. Every access names a first address and a size, and fails
unless all of it lies inside. The end of a range is a sum of words of 64 bits; one that wraps is
behind the end of memory as well. (Where such sums are checked the program stops at it instead.) A
write that fails leaves memory as it was.

## Main definitions

* `Chip8.Memory` — the bytes, and where a program is put.
* `Chip8.Memory.IsRange` — the test that every access has to pass.
* `Chip8.Memory.slice`, `Chip8.Memory.write` — reading and writing a range of bytes.
* `Chip8.Memory.getByte`, `Chip8.Memory.getWord`, `Chip8.Memory.setByte`, `Chip8.Memory.setWord` —
  single bytes and words; the upper byte of a word comes first.
* `Chip8.Feed` — bytes that come from outside and may break off with a failure.
* `Chip8.Memory.load` — puts a program into memory.

## Main results

* `Chip8.Memory.isRange_iff`, `Chip8.Memory.isRange_countOf` — the test is passed if the range ends
  in memory by a sum of numbers.
-/

namespace Chip8

/-- The number of bytes of memory. -/
def Memory.size : Nat := 4096

/-- The memory of the machine. -/
structure Memory where
  /-- The bytes by address. -/
  bytes : Vector UInt8 Memory.size
  /-- Where a program is put. -/
  loadAddress : UInt16
  deriving DecidableEq

/-- Bytes from outside: those that arrive, and the failure that ends them, if one does. -/
structure Feed where
  /-- The bytes that arrive before the end or the failure. -/
  bytes : List UInt8
  /-- Why no more bytes can be had. -/
  failure : Option String
  deriving DecidableEq, Repr

namespace Feed

/-- Bytes that all arrive. -/
def ofList (bytes : List UInt8) : Feed := ⟨bytes, none⟩

/-- The whole of the bytes, or the failure. -/
def readAll (f : Feed) : Except Fault (List UInt8) :=
  match f.failure with
  | some reason => .error (.device reason)
  | none => .ok f.bytes

end Feed

namespace Memory

/-- The `count` bytes from `address` on are a range of memory. The range ends at the sum of the two,
a word of 64 bits that may wrap: it has to end neither before its start nor behind the end of
memory. -/
def IsRange (address : UInt16) (count : UInt64) : Prop :=
  address.toUInt64 ≤ address.toUInt64 + count ∧ (address.toUInt64 + count).toNat ≤ size

instance (address : UInt16) (count : UInt64) : Decidable (IsRange address count) :=
  inferInstanceAs (Decidable (_ ∧ _))

/-- No sum that wraps makes a range: it would end before its start. -/
theorem isRange_iff {address : UInt16} {count : UInt64} :
    IsRange address count ↔ address.toNat + count.toNat ≤ size := by
  have haddress : address.toNat < 2 ^ 16 := address.toNat_lt
  have hcount : count.toNat < 2 ^ 64 := count.toNat_lt
  rw [IsRange, UInt64.le_iff_toNat_le, UInt64.toNat_add, UInt16.toNat_toUInt64]
  change _ ∧ _ ≤ 4096 ↔ _ ≤ 4096
  by_cases hwrap : address.toNat + count.toNat < 2 ^ 64
  · rw [Nat.mod_eq_of_lt hwrap]
    omega
  · have hmod : (address.toNat + count.toNat) % 2 ^ 64 = address.toNat + count.toNat - 2 ^ 64 := by
      omega
    rw [hmod]
    omega

theorem isRange_one {address : UInt16} : IsRange address 1 ↔ address.toNat < size :=
  isRange_iff

theorem isRange_two {address : UInt16} : IsRange address 2 ↔ address.toNat + 1 < size :=
  isRange_iff

/-- The number of bytes of some data, as a word of 64 bits. Data that is really there is never too
long for such a word; of longer data this would be the largest word. -/
def countOf (data : List UInt8) : UInt64 := .ofNatClamp data.length

/-- Data that is too long for a word is too long for memory. -/
theorem isRange_countOf {address : UInt16} {data : List UInt8} :
    IsRange address (countOf data) ↔ address.toNat + data.length ≤ size := by
  rw [isRange_iff, countOf]
  by_cases hlong : data.length < UInt64.size
  · rw [UInt64.toNat_ofNatClamp_of_lt hlong]
  · rw [UInt64.toNat_ofNatClamp_of_le (Nat.le_of_not_lt hlong)]
    unfold size
    change ¬ data.length < 18446744073709551616 at hlong
    change address.toNat + 18446744073709551615 ≤ 4096 ↔ _
    omega

/-- The `count` bytes from `address` on. -/
def slice (m : Memory) (address : UInt16) (count : UInt64) : Except Fault (List UInt8) :=
  if IsRange address count then
    .ok ((m.bytes.toList.drop address.toNat).take count.toNat)
  else .error (.outOfRange address.toNat count.toNat)

/-- Memory with `data` written from `address` on. -/
def write (m : Memory) (address : UInt16) (data : List UInt8) : Except Fault Memory :=
  if IsRange address (countOf data) then
    .ok { m with bytes := Row.overwrite m.bytes address.toNat data }
  else .error (.outOfRange address.toNat data.length)

/-- Memory with `count` bytes from `address` on set to `value`. -/
def fill (m : Memory) (address : UInt16) (count : UInt64) (value : UInt8) : Except Fault Memory :=
  if IsRange address count then
    .ok { m with bytes := Row.overwrite m.bytes address.toNat (List.replicate count.toNat value) }
  else .error (.outOfRange address.toNat count.toNat)

/-- The byte at `address`. -/
def getByte (m : Memory) (address : UInt16) : Except Fault UInt8 :=
  if h : IsRange address 1 then
    have := isRange_one.mp h
    .ok m.bytes[address.toNat]
  else .error (.outOfRange address.toNat 1)

theorem getByte_of_lt (m : Memory) {address : UInt16} (h : address.toNat < size) :
    m.getByte address = .ok m.bytes[address.toNat] := dif_pos (isRange_one.mpr h)

theorem getByte_of_le (m : Memory) {address : UInt16} (h : size ≤ address.toNat) :
    m.getByte address = .error (.outOfRange address.toNat 1) :=
  dif_neg fun hrange => Nat.not_lt.mpr h (isRange_one.mp hrange)

theorem getByte_eq_ok {m : Memory} {address : UInt16} {b : UInt8} :
    m.getByte address = .ok b ↔ m.bytes[address.toNat]? = some b := by
  rcases Nat.lt_or_ge address.toNat size with h | h
  · rw [getByte_of_lt m h, Vector.getElem?_eq_getElem h, Except.ok.injEq, Option.some.injEq]
  · rw [getByte_of_le m h, Vector.getElem?_eq_none h]
    simp

/-- Memory with another byte at `address`. -/
def setByte (m : Memory) (address : UInt16) (value : UInt8) : Except Fault Memory :=
  if h : IsRange address 1 then
    have := isRange_one.mp h
    .ok { m with bytes := m.bytes.set address.toNat value }
  else .error (.outOfRange address.toNat 1)

theorem setByte_of_lt (m : Memory) {address : UInt16} (h : address.toNat < size) (value : UInt8) :
    m.setByte address value = .ok { m with bytes := m.bytes.set address.toNat value } :=
  dif_pos (isRange_one.mpr h)

theorem setByte_of_le (m : Memory) {address : UInt16} (h : size ≤ address.toNat) (value : UInt8) :
    m.setByte address value = .error (.outOfRange address.toNat 1) :=
  dif_neg fun hrange => Nat.not_lt.mpr h (isRange_one.mp hrange)

/-- The word at `address`, the upper byte first. -/
def getWord (m : Memory) (address : UInt16) : Except Fault UInt16 :=
  if h : IsRange address 2 then
    have := isRange_two.mp h
    .ok (m.bytes[address.toNat].toUInt16 <<< 8 ||| m.bytes[address.toNat + 1].toUInt16)
  else .error (.outOfRange address.toNat 2)

theorem getWord_of_lt (m : Memory) {address : UInt16} (h : address.toNat + 1 < size) :
    m.getWord address =
      .ok (m.bytes[address.toNat].toUInt16 <<< 8 ||| m.bytes[address.toNat + 1].toUInt16) :=
  dif_pos (isRange_two.mpr h)

theorem getWord_of_le (m : Memory) {address : UInt16} (h : size ≤ address.toNat + 1) :
    m.getWord address = .error (.outOfRange address.toNat 2) :=
  dif_neg fun hrange => Nat.not_lt.mpr h (isRange_two.mp hrange)

/-- Memory with another word at `address`, the upper byte first. -/
def setWord (m : Memory) (address word : UInt16) : Except Fault Memory :=
  m.write address [(word >>> 8).toUInt8, word.toUInt8]

/-- Memory with the whole of `feed` written from `address` on, and the number of bytes written.
A feed that fails counts before a range that does. -/
def writeFeed (m : Memory) (address : UInt16) (feed : Feed) : Except Fault (Nat × Memory) := do
  let data ← feed.readAll
  let m ← m.write address data
  return (data.length, m)

/-- Memory when the machine is switched on: the font at the bottom and zeros above it. -/
def powerOn : Memory :=
  ⟨Row.overwrite (Vector.replicate size 0) Font.start.toNat Font.glyphs, programStart⟩

/-- Puts a program into memory and answers its size. -/
def load (feed : Feed) : Action Memory Nat := fun m =>
  match m.writeFeed m.loadAddress feed with
  | .ok (count, m') => ⟨m', .ok count, [.programLoaded count m.loadAddress]⟩
  | .error fault => ⟨m, .error fault, []⟩

end Memory

end Chip8
