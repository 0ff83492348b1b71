import Mathlib.Tactic.Lemma
import Chip8.Memory

set_option autoImplicit false
set_option relaxedAutoImplicit false

/-!
# Memory as an array of bytes

Whatever is asked of memory names a range of bytes. It is answered as by a plain array if the whole
range is there, and otherwise does nothing at all.

## Main definitions

* `Chip8.Memory.Call`, `Chip8.Memory.respond` — what can be asked of memory, and its answer.
* `Chip8.Bytes` — a plain array of bytes, with `Chip8.Bytes.read` and `Chip8.Bytes.put`.
* `Chip8.Bytes.respond` — the answer of a plain array.
* `Chip8.Memory.Plain` — memory that shows itself as an array after the calls of its past.

## Main results

* `Chip8.Memory.slice_eq`, `Chip8.Memory.write_eq` — reading and writing a range is reading and
  writing the array.
* `Chip8.Memory.respond_bytes` — one call is answered as by the array.
* `Chip8.Memory.respond_ok_iff` — a call succeeds exactly if it can be carried out.
* `Chip8.Memory.slice_after` — what has been written is read later.
* `Chip8.Memory.plain_after` — any calls are answered as by the array, one after the other.
-/

namespace Chip8

/-! ## Calls -/

namespace Memory

/-- What can be asked of memory. Sizes are words of 64 bits. -/
inductive Call where
  /-- Writes bytes from an address on. -/
  | write (address : UInt16) (data : List UInt8)
  /-- Writes the whole of a feed from an address on. -/
  | writeFeed (address : UInt16) (feed : Feed)
  /-- Puts a program at a place. -/
  | load (place : UInt16) (feed : Feed)
  /-- Asks for the byte at an address. -/
  | getByte (address : UInt16)
  /-- Changes the byte at an address. -/
  | setByte (address : UInt16) (value : UInt8)
  /-- Asks for the word at an address. -/
  | getWord (address : UInt16)
  /-- Changes the word at an address. -/
  | setWord (address word : UInt16)
  /-- Asks for so many bytes from an address on. -/
  | slice (address : UInt16) (count : UInt64)
  /-- Sets so many bytes from an address on to the same value. -/
  | fill (address : UInt16) (count : UInt64) (value : UInt8)
  deriving DecidableEq

/-- What is answered to a call that succeeds. -/
inductive Answer where
  /-- It is done. -/
  | done
  /-- It is done, with so many bytes. -/
  | count (n : Nat)
  /-- A byte. -/
  | byte (value : UInt8)
  /-- A word. -/
  | word (value : UInt16)
  /-- Several bytes. -/
  | bytes (values : List UInt8)
  deriving DecidableEq, Repr

/-- A write that may fail: memory afterwards, which is as it was if the write fails. -/
def settle (m : Memory) : Except Fault Memory → Except Fault Answer × Memory
  | .ok m' => (.ok .done, m')
  | .error fault => (.error fault, m)

/-- The answer to a call, or why it failed, and memory afterwards. -/
def respond (m : Memory) : Call → Except Fault Answer × Memory
  | .write address data => m.settle (m.write address data)
  | .writeFeed address feed =>
    match m.writeFeed address feed with
    | .ok (count, m') => (.ok (.count count), m')
    | .error fault => (.error fault, m)
  | .load place feed =>
    let o := load feed { m with loadAddress := place }
    (o.result.map .count, o.state)
  | .getByte address => ((m.getByte address).map .byte, m)
  | .setByte address value => m.settle (m.setByte address value)
  | .getWord address => ((m.getWord address).map .word, m)
  | .setWord address word => m.settle (m.setWord address word)
  | .slice address count => ((m.slice address count).map .bytes, m)
  | .fill address count value => m.settle (m.fill address count value)

/-- Memory after several calls. -/
def after (m : Memory) (calls : List Call) : Memory :=
  calls.foldl (fun m call => (m.respond call).2) m

/-! ## What a call asks for -/

namespace Call

/-- The first address of the range that the call is about. -/
def address : Call → UInt16
  | .write address _ | .writeFeed address _ | .load address _ | .getByte address
  | .setByte address _ | .getWord address | .setWord address _ | .slice address _
  | .fill address _ _ => address

/-- The number of bytes of that range. -/
def size : Call → Nat
  | .write _ data => data.length
  | .writeFeed _ feed | .load _ feed => feed.bytes.length
  | .getByte _ | .setByte _ _ => 1
  | .getWord _ | .setWord _ _ => 2
  | .slice _ count | .fill _ count _ => count.toNat

/-- The bytes that are written there. Of a word the upper byte comes first. -/
def data : Call → List UInt8
  | .write _ data => data
  | .writeFeed _ feed | .load _ feed => feed.bytes
  | .setByte _ value => [value]
  | .setWord _ word => [UInt8.ofNat (word.toNat / 256), UInt8.ofNat (word.toNat % 256)]
  | .fill _ count value => List.replicate count.toNat value
  | .getByte _ | .getWord _ | .slice _ _ => []

/-- Why the bytes that are to be written cannot be had, if they cannot. -/
def failure? : Call → Option String
  | .writeFeed _ feed | .load _ feed => feed.failure
  | _ => none

/-- The number that is written with the given bytes, the highest first. -/
def bigEndian (bytes : List UInt8) : Nat := bytes.foldl (fun n b => 256 * n + b.toNat) 0

/-- The answer when the range holds the given bytes. -/
def answer (call : Call) (bytes : List UInt8) : Answer :=
  match call with
  | .write _ _ | .setByte _ _ | .setWord _ _ | .fill _ _ _ => .done
  | .writeFeed _ feed | .load _ feed => .count feed.bytes.length
  | .getByte _ => .byte (UInt8.ofNat (bigEndian bytes))
  | .getWord _ => .word (UInt16.ofNat (bigEndian bytes))
  | .slice _ _ => .bytes bytes

/-- The call can be carried out: the bytes that it is to write can be had, and its range ends at the
end of memory or before. -/
def Valid (call : Call) : Prop :=
  call.failure? = none ∧ call.address.toNat + call.size ≤ Memory.size

instance (call : Call) : Decidable call.Valid := inferInstanceAs (Decidable (_ ∧ _))

/-- The call is carried out and writes the byte at address `k`. -/
def Writes (call : Call) (k : Nat) : Prop :=
  call.Valid ∧ call.address.toNat ≤ k ∧ k < call.address.toNat + call.data.length

end Call

end Memory

/-! ## A plain array -/

/-- A plain array of bytes. -/
abbrev Bytes := Fin Memory.size → UInt8

namespace Bytes

open Memory (Call Answer)

/-- The `count` bytes from `start` on. -/
def read (a : Bytes) (start count : Nat) (h : start + count ≤ Memory.size) : List UInt8 :=
  List.ofFn fun i : Fin count => a ⟨start + i.val, by omega⟩

/-- The array with `data` in place of the bytes from `start` on. -/
def put (a : Bytes) (start : Nat) (data : List UInt8) : Bytes := fun k =>
  if h : start ≤ k.val ∧ k.val < start + data.length then data[k.val - start] else a k

/-- The answer to a call, and the array afterwards. A failure to get the bytes comes first; then
the range has to end at the end of the array or before. Sums are those of numbers. -/
def respond (a : Bytes) (call : Call) : Except Fault Answer × Bytes :=
  match call.failure? with
  | some reason => (.error (.device reason), a)
  | none =>
    if h : call.address.toNat + call.size ≤ Memory.size then
      (.ok (call.answer (a.read call.address.toNat call.size h)),
        a.put call.address.toNat call.data)
    else (.error (.outOfRange call.address.toNat call.size), a)

/-- The array after several calls. -/
def after (a : Bytes) (calls : List Call) : Bytes :=
  calls.foldl (fun a call => (a.respond call).2) a

/-! ### The two ways a call can go -/

lemma respond_of_valid (a : Bytes) {call : Call} (h : call.Valid) :
    a.respond call = (.ok (call.answer (a.read call.address.toNat call.size h.2)),
      a.put call.address.toNat call.data) := by
  rw [respond]
  split
  · next reason hfailure => exact absurd (h.1.symm.trans hfailure) (Option.some_ne_none reason).symm
  · exact dif_pos h.2

lemma respond_of_not_valid (a : Bytes) {call : Call} (h : ¬ call.Valid) :
    ∃ fault, a.respond call = (.error fault, a) := by
  rw [respond]
  cases hready : call.failure? with
  | some reason => exact ⟨_, rfl⟩
  | none => exact ⟨_, dif_neg fun hinside => h ⟨hready, hinside⟩⟩

end Bytes

namespace Memory

variable {m : Memory} {address : UInt16}

/-- The bytes of memory. -/
def array (m : Memory) : Bytes := fun k => m.bytes[k.val]

/-! ## Ranges -/

lemma slice_eq (m : Memory) {count : UInt64} (h : address.toNat + count.toNat ≤ size) :
    m.slice address count = .ok (m.array.read address.toNat count.toNat h) := by
  have hread : (m.bytes.toList.drop address.toNat).take count.toNat =
      m.array.read address.toNat count.toNat h := by
    apply List.ext_getElem
    · simp [Bytes.read]
      omega
    · intro i _ _
      simp [Bytes.read, array]
  rw [slice, if_pos (isRange_iff.mpr h), hread]

lemma slice_of_outside (m : Memory) {count : UInt64} (h : ¬ address.toNat + count.toNat ≤ size) :
    m.slice address count = .error (.outOfRange address.toNat count.toNat) :=
  if_neg fun hrange => h (isRange_iff.mp hrange)

lemma array_overwrite (m : Memory) (start : Nat) (data : List UInt8) :
    array { m with bytes := Row.overwrite m.bytes start data } = m.array.put start data := by
  funext k
  change (Row.overwrite m.bytes start data)[k.val] = m.array.put start data k
  rw [Row.getElem_overwrite, Bytes.put]
  by_cases hstart : k.val < start
  · rw [if_pos hstart, dif_neg (by omega)]
    rfl
  · rw [if_neg hstart]
    by_cases hstop : k.val < start + data.length
    · rw [dif_pos ⟨by omega, hstop⟩, List.getElem?_eq_getElem (by omega), Option.getD_some]
    · rw [dif_neg (by omega), List.getElem?_eq_none (by omega), Option.getD_none]
      rfl

/-- **Writing is writing to the array**, if the range is there. -/
lemma write_eq (m : Memory) {data : List UInt8} (h : address.toNat + data.length ≤ size) :
    ∃ m', m.write address data = .ok m' ∧ m'.array = m.array.put address.toNat data := by
  exact ⟨_, if_pos (isRange_countOf.mpr h), m.array_overwrite address.toNat data⟩

lemma write_of_outside (m : Memory) {data : List UInt8}
    (h : ¬ address.toNat + data.length ≤ size) :
    m.write address data = .error (.outOfRange address.toNat data.length) :=
  if_neg fun hrange => h (isRange_countOf.mp hrange)

/-! ## Bytes and words are ranges -/

lemma getByte_eq (m : Memory) (address : UInt16) :
    m.getByte address =
      (m.slice address 1).map fun bytes => UInt8.ofNat (Call.bigEndian bytes) := by
  by_cases h : address.toNat < size
  · have hslice := m.slice_eq (show address.toNat + (1 : UInt64).toNat ≤ size from h)
    rw [hslice, m.getByte_of_lt h]
    simp [Except.map, Bytes.read, array, Call.bigEndian]
  · have hslice := m.slice_of_outside (show ¬ address.toNat + (1 : UInt64).toNat ≤ size from h)
    rw [hslice, m.getByte_of_le (Nat.le_of_not_lt h)]
    rfl

/-- Two bytes side by side are the number that is written with them. -/
lemma word_eq (upper lower : UInt8) :
    upper.toUInt16 <<< 8 ||| lower.toUInt16 = UInt16.ofNat (256 * upper.toNat + lower.toNat) := by
  have hupper : upper.toNat < 256 := upper.toNat_lt
  have hlower : lower.toNat < 256 := lower.toNat_lt
  have hshift : (upper.toUInt16 <<< 8).toNat = 2 ^ 8 * upper.toNat := by
    rw [UInt16.toNat_shiftLeft, UInt8.toNat_toUInt16]
    change upper.toNat <<< 8 % 65536 = 2 ^ 8 * upper.toNat
    rw [Nat.shiftLeft_eq]
    omega
  rw [← UInt16.toNat_inj, UInt16.toNat_or, hshift, UInt8.toNat_toUInt16,
    ← Nat.two_pow_add_eq_or_of_lt hlower, UInt16.toNat_ofNat']
  omega

lemma getWord_eq (m : Memory) (address : UInt16) :
    m.getWord address =
      (m.slice address 2).map fun bytes => UInt16.ofNat (Call.bigEndian bytes) := by
  by_cases h : address.toNat + 1 < size
  · have hslice := m.slice_eq (show address.toNat + (2 : UInt64).toNat ≤ size from h)
    rw [hslice, m.getWord_of_lt h, word_eq]
    simp [Except.map, Bytes.read, array, Call.bigEndian]
  · have hslice := m.slice_of_outside (show ¬ address.toNat + (2 : UInt64).toNat ≤ size from h)
    rw [hslice, m.getWord_of_le (Nat.le_of_not_lt h)]
    rfl

lemma setByte_eq (m : Memory) (address : UInt16) (value : UInt8) :
    m.setByte address value = m.write address [value] := by
  by_cases h : address.toNat < size
  · have hrange : IsRange address (countOf [value]) := isRange_countOf.mpr h
    have hset : m.bytes.set address.toNat value h =
        m.bytes.setIfInBounds address.toNat value := by
      ext k hk
      rw [Vector.getElem_set, Vector.getElem_setIfInBounds]
    rw [m.setByte_of_lt h, write, if_pos hrange, hset]
    rfl
  · have hwrite := m.write_of_outside (show ¬ address.toNat + [value].length ≤ size from h)
    rw [hwrite, m.setByte_of_le (Nat.le_of_not_lt h)]
    rfl

lemma setWord_eq (m : Memory) (address word : UInt16) :
    m.setWord address word = m.write address (Call.setWord address word).data := by
  have hupper : (word >>> 8).toUInt8 = UInt8.ofNat (word.toNat / 256) := by
    rw [← UInt8.toNat_inj, UInt16.toNat_toUInt8, UInt16.toNat_shiftRight, UInt8.toNat_ofNat']
    change word.toNat >>> 8 % 2 ^ 8 = word.toNat / 256 % 2 ^ 8
    rw [Nat.shiftRight_eq_div_pow]
  have hlower : word.toUInt8 = UInt8.ofNat (word.toNat % 256) := by
    rw [← UInt8.toNat_inj, UInt16.toNat_toUInt8, UInt8.toNat_ofNat']
    omega
  rw [setWord, Call.data, hupper, hlower]

lemma fill_eq (m : Memory) (address : UInt16) (count : UInt64) (value : UInt8) :
    m.fill address count value = m.write address (List.replicate count.toNat value) := by
  have hrange : IsRange address (countOf (List.replicate count.toNat value)) ↔
      IsRange address count := by
    rw [isRange_countOf, isRange_iff, List.length_replicate]
  rw [fill, write, List.length_replicate]
  simp only [hrange]

/-! ## One call -/

/-- A write that does not fail for want of bytes is answered as by the array. -/
lemma settle_write (m : Memory) (call : Call) (hready : call.failure? = none)
    (hsize : call.size = call.data.length) (hdone : ∀ bytes, call.answer bytes = .done) :
    m.array.respond call =
      ((m.settle (m.write call.address call.data)).1,
        (m.settle (m.write call.address call.data)).2.array) := by
  rw [Bytes.respond, hready]
  dsimp only
  by_cases h : call.address.toNat + call.data.length ≤ size
  · obtain ⟨m', hwrite, harray⟩ := m.write_eq h
    rw [dif_pos (by omega), hwrite, hdone, settle, harray]
  · rw [dif_neg (by omega), write_of_outside m h, hsize]
    rfl

lemma put_nil (a : Bytes) (start : Nat) : a.put start [] = a := by
  funext k
  rw [Bytes.put, dif_neg (by simp)]

/-- A call that only reads is answered as by the array. -/
lemma respond_slice (m : Memory) {call : Call} {count : UInt64} (hready : call.failure? = none)
    (hdata : call.data = []) (hsize : call.size = count.toNat) :
    m.array.respond call = ((m.slice call.address count).map call.answer, m.array) := by
  rw [Bytes.respond, hready]
  dsimp only
  by_cases h : call.address.toNat + count.toNat ≤ size
  · rw [dif_pos (hsize ▸ h), slice_eq m h, hdata, put_nil]
    simp only [hsize]
    rfl
  · rw [dif_neg (hsize ▸ h), slice_of_outside m h, hsize]
    rfl

lemma writeFeed_eq (m : Memory) (address : UInt16) (feed : Feed) :
    m.writeFeed address feed =
      match feed.failure with
      | some reason => .error (.device reason)
      | none => (m.write address feed.bytes).map (feed.bytes.length, ·) := by
  rw [writeFeed, Feed.readAll]
  cases feed.failure with
  | some reason => rfl
  | none =>
    change (m.write address feed.bytes >>= fun m' => pure (feed.bytes.length, m')) =
      (m.write address feed.bytes).map (feed.bytes.length, ·)
    cases m.write address feed.bytes <;> rfl

/-- Writing a feed is answered as by the array. Of a feed that fails nothing is written. -/
lemma respond_writeFeed (m : Memory) (address : UInt16) (feed : Feed) :
    m.array.respond (.writeFeed address feed) =
      ((m.respond (.writeFeed address feed)).1, (m.respond (.writeFeed address feed)).2.array) := by
  rw [respond, writeFeed_eq, Bytes.respond, Call.failure?]
  cases feed.failure with
  | some reason => rfl
  | none =>
    by_cases h : address.toNat + feed.bytes.length ≤ size
    · obtain ⟨m', hwrite, harray⟩ := m.write_eq h
      rw [hwrite]
      simp only [Except.map, harray]
      exact dif_pos h
    · rw [write_of_outside m h]
      exact dif_neg h

/-- Putting a program at a place is writing it there, once the place has been noted. -/
lemma respond_load (m : Memory) (place : UInt16) (feed : Feed) :
    m.respond (.load place feed) =
      { m with loadAddress := place }.respond (.writeFeed place feed) := by
  rw [respond, respond, load]
  cases ({ m with loadAddress := place } : Memory).writeFeed place feed <;> rfl

/-- **One call is answered as by the array**, and does to memory what it does to the array. -/
theorem respond_bytes (m : Memory) (call : Call) :
    m.array.respond call = ((m.respond call).1, (m.respond call).2.array) := by
  cases call with
  | write address data => exact m.settle_write (.write address data) rfl rfl fun _ => rfl
  | writeFeed address feed => exact m.respond_writeFeed address feed
  | load place feed =>
    rw [respond_load]
    exact respond_writeFeed { m with loadAddress := place } place feed
  | getByte address =>
    rw [respond, getByte_eq, m.respond_slice rfl rfl (show _ = (1 : UInt64).toNat from rfl)]
    change ((m.slice address 1).map _, _) = _
    cases m.slice address 1 <;> rfl
  | setByte address value =>
    rw [respond, setByte_eq]
    exact m.settle_write (.setByte address value) rfl rfl fun _ => rfl
  | getWord address =>
    rw [respond, getWord_eq, m.respond_slice rfl rfl (show _ = (2 : UInt64).toNat from rfl)]
    change ((m.slice address 2).map _, _) = _
    cases m.slice address 2 <;> rfl
  | setWord address word =>
    rw [respond, setWord_eq]
    exact m.settle_write (.setWord address word) rfl rfl fun _ => rfl
  | slice address count => exact m.respond_slice rfl rfl rfl
  | fill address count value =>
    rw [respond, fill_eq]
    exact m.settle_write (.fill address count value) rfl List.length_replicate.symm
      fun _ => rfl

/-! ## Several calls -/

lemma after_append (m : Memory) (past later : List Call) :
    m.after (past ++ later) = (m.after past).after later :=
  List.foldl_append

lemma array_after (m : Memory) (calls : List Call) :
    (m.after calls).array = m.array.after calls := by
  induction calls generalizing m with
  | nil => rfl
  | cons call calls ih =>
    change ((m.respond call).2.after calls).array = (m.array.respond call).2.after calls
    rw [ih, respond_bytes]

/-- A call that can be carried out succeeds, and writes its bytes to its range. -/
lemma respond_of_valid (m : Memory) {call : Call} (h : call.Valid) : ∃ answer,
    (m.respond call).1 = .ok answer ∧
      (m.respond call).2.array = m.array.put call.address.toNat call.data := by
  have hrespond := m.respond_bytes call
  rw [m.array.respond_of_valid h] at hrespond
  obtain ⟨hanswer, harray⟩ := Prod.mk.inj hrespond
  exact ⟨_, hanswer.symm, harray.symm⟩

/-- A call that cannot be carried out fails, and leaves all bytes as they were. -/
lemma respond_of_not_valid (m : Memory) {call : Call} (h : ¬ call.Valid) : ∃ fault,
    (m.respond call).1 = .error fault ∧ (m.respond call).2.array = m.array := by
  have hrespond := m.respond_bytes call
  obtain ⟨fault, hfault⟩ := m.array.respond_of_not_valid h
  rw [hfault] at hrespond
  obtain ⟨hanswer, harray⟩ := Prod.mk.inj hrespond
  exact ⟨fault, hanswer.symm, harray.symm⟩

/-- **A call succeeds if it can be carried out**, and in no other case. -/
lemma respond_ok_iff (m : Memory) (call : Call) :
    (∃ answer, (m.respond call).1 = .ok answer) ↔ call.Valid := by
  constructor
  · rintro ⟨answer, hok⟩
    by_cases hvalid : call.Valid
    · exact hvalid
    · obtain ⟨fault, herror, -⟩ := m.respond_of_not_valid hvalid
      cases hok.symm.trans herror
  · intro hvalid
    obtain ⟨answer, hok, -⟩ := m.respond_of_valid hvalid
    exact ⟨answer, hok⟩

/-- A call that succeeds has written its bytes to its range. -/
lemma of_respond_ok {call : Call} {answer : Answer} (h : (m.respond call).1 = .ok answer) :
    call.Valid ∧ (m.respond call).2.array = m.array.put call.address.toNat call.data := by
  have hvalid := (m.respond_ok_iff call).mp ⟨answer, h⟩
  obtain ⟨-, -, harray⟩ := m.respond_of_valid hvalid
  exact ⟨hvalid, harray⟩

/-- A call that fails leaves all bytes as they were. -/
lemma array_of_respond_error {call : Call} {fault : Fault}
    (h : (m.respond call).1 = .error fault) : (m.respond call).2.array = m.array := by
  have hnot : ¬ call.Valid := by
    intro hvalid
    obtain ⟨answer, hok, -⟩ := m.respond_of_valid hvalid
    cases hok.symm.trans h
  obtain ⟨-, -, harray⟩ := m.respond_of_not_valid hnot
  exact harray

/-- A call leaves the bytes that it does not write. -/
lemma array_respond_of_not_writes {call : Call} {k : Fin size} (h : ¬ call.Writes k) :
    (m.respond call).2.array k = m.array k := by
  cases hresult : (m.respond call).1 with
  | error fault => rw [array_of_respond_error hresult]
  | ok answer =>
    obtain ⟨hvalid, harray⟩ := of_respond_ok hresult
    rw [harray]
    exact dif_neg fun hk => h ⟨hvalid, hk⟩

lemma array_after_of_not_writes {calls : List Call} {k : Fin size}
    (h : ∀ call ∈ calls, ¬ call.Writes k) : (m.after calls).array k = m.array k := by
  induction calls generalizing m with
  | nil => rfl
  | cons call calls ih =>
    rw [List.forall_mem_cons] at h
    exact (ih h.2).trans (array_respond_of_not_writes h.1)

lemma Call.length_data_le (call : Call) : call.data.length ≤ call.size := by
  cases call <;> simp [data, size]

/-- **What has been written is read later**, as long as no call has written there since. -/
lemma slice_after {call : Call} {answer : Answer} {later : List Call} {count : UInt64}
    (hcall : (m.respond call).1 = .ok answer)
    (hlater : ∀ c ∈ later, ∀ k, call.Writes k → ¬ c.Writes k)
    (hcount : count.toNat = call.data.length) :
    ((m.respond call).2.after later).slice call.address count = .ok call.data := by
  obtain ⟨hvalid, harray⟩ := of_respond_ok hcall
  have hinside := hvalid.2
  have hlength := call.length_data_le
  rw [slice_eq _ (by omega)]
  congr 1
  apply List.ext_getElem
  · exact List.length_ofFn.trans hcount
  · intro i _ hi
    have hwrites : call.Writes (call.address.toNat + i) := ⟨hvalid, by omega, by omega⟩
    simp only [Bytes.read, List.getElem_ofFn]
    rw [array_after_of_not_writes fun c hc => hlater c hc _ hwrites, harray, Bytes.put,
      dif_pos hwrites.2]
    simp only [Nat.add_sub_cancel_left]

/-- Memory after the calls of its past, as it shows itself. -/
structure Plain (m : Memory) (past : List Call) : Prop where
  /-- It has the bytes of an array after the same calls. -/
  array_eq : (m.after past).array = m.array.after past
  /-- The next call is answered as by the array, and does to memory what it does to the array. -/
  respond_eq : ∀ call, (m.array.after past).respond call =
    (((m.after past).respond call).1, ((m.after past).respond call).2.array)
  /-- It succeeds if it can be carried out. -/
  ok_iff : ∀ call, (∃ answer, ((m.after past).respond call).1 = .ok answer) ↔ call.Valid
  /-- If it fails, no byte is changed. -/
  unchanged : ∀ call fault, ((m.after past).respond call).1 = .error fault →
    ((m.after past).respond call).2.array = (m.after past).array
  /-- What it has written is read by any later call, until it is written over. -/
  read_back : ∀ call answer later, ((m.after past).respond call).1 = .ok answer →
    (∀ c ∈ later, ∀ k, call.Writes k → ¬ c.Writes k) → ∀ count : UInt64,
    count.toNat = call.data.length →
    (m.after (past ++ call :: later)).slice call.address count = .ok call.data

/-- **Memory is a plain array of bytes**, whatever is asked of it, in whatever order, with whatever
addresses and sizes. The end of a range, as a word of 64 bits, may come out too small, but never so
that the test which every access has to pass would take the range for one of memory.

**Proof sketch.** Bytes and words are ranges of one and of two bytes, so that every call reads or
writes a range, and it looks first whether that is in memory. -/
theorem plain_after (m : Memory) (past : List Call) :
    m.Plain past ∧
      ∀ address count, IsRange address count ↔ address.toNat + count.toNat ≤ size := by
  refine ⟨?_, fun _ _ => isRange_iff⟩
  have harray := m.array_after past
  refine
    { array_eq := harray
      respond_eq := fun call => ?_
      ok_iff := (m.after past).respond_ok_iff
      unchanged := fun call fault h => array_of_respond_error h
      read_back := fun call answer later hcall hlater count hcount => ?_ }
  · rw [← harray, respond_bytes]
  · rw [after_append]
    exact slice_after hcall hlater hcount

/-- After a program that breaks off, a word is written at the very end of memory. Another one does
not fit there any more, and a range of nearly all numbers is none, as its end wraps. -/
theorem plain_after_end :
    let past : List Call := [.load 0x200 ⟨[0x60, 0x01], some "lost"⟩]
    let later : List Call := [.setWord 0xfff 0x0102, .fill 1 0xffffffffffffffff 7]
    (powerOn.after (past ++ .setWord 0xffe 0xa2f0 :: later)).slice 0xffe 2 = .ok [0xa2, 0xf0] ∧
      (powerOn.after past).slice 1 0xffffffffffffffff =
        .error (.outOfRange 1 0xffffffffffffffff) := by
  intro past later
  obtain ⟨hplain, hrange⟩ := plain_after powerOn past
  obtain ⟨answer, hanswer⟩ := (hplain.ok_iff (.setWord 0xffe 0xa2f0)).mpr (by decide)
  have hlater : ∀ c ∈ later, ¬ c.Valid := by decide
  refine ⟨?_, ?_⟩
  · exact hplain.read_back _ answer later hanswer
      (fun c hc _ _ hwrites => hlater c hc hwrites.1) 2 rfl
  · rw [slice, if_neg]
    · rfl
    · rw [hrange]
      decide

end Memory

end Chip8
