import Chip8.Machine.Board

set_option autoImplicit false
set_option relaxedAutoImplicit false

/-!
# Carrying out instructions

What each kind of instruction does to the processor, the memory and the devices. Register
arithmetic wraps at eight bits. Neither the index nor the program counter is cut to the size of
memory: a program that leaves memory fails at its next access.

Unless an instruction sets the program counter itself, or waits for a key, the program counter
moves on by one instruction, and by two when the next instruction is skipped.

## Main definitions

* `Chip8.Flow` — what an instruction does to the program counter.
* `Chip8.Board.perform` — the effect of an instruction, the program counter apart.
* `Chip8.Board.execute` — the whole of an instruction.
-/

namespace Chip8

/-- The number of bytes of an instruction. -/
def instructionSize : UInt16 := 2

/-- What an instruction does to the program counter. -/
inductive Flow where
  /-- It moves on to the next instruction. -/
  | next
  /-- It moves on past the next instruction. -/
  | skip
  /-- The instruction has set it. -/
  | jumped
  /-- It stays, so that the instruction is carried out again. -/
  | wait
  deriving DecidableEq, Repr

/-- The program counter after an instruction. -/
def Flow.advance (f : Flow) (pc : UInt16) : UInt16 :=
  match f with
  | next => pc + instructionSize
  | skip => pc + 2 * instructionSize
  | jumped | wait => pc

namespace Board

variable {δ : Type}

/-- An instruction that changes only the processor. -/
def update (f : Cpu → Cpu) : Action (Board δ) Flow := fun b => ⟨mapCpu f b, .ok .next, []⟩

/-- An instruction that skips the next one on a condition. -/
def skipIf (p : Board δ → Bool) : Action (Board δ) Flow := fun b =>
  ⟨b, .ok (if p b then .skip else .next), []⟩

/-- An instruction that jumps to an address. -/
def jumpTo (target : Cpu → UInt16) : Action (Board δ) Flow := fun b =>
  ⟨mapCpu (fun c => { c with pc := target c }) b, .ok .jumped, []⟩

/-- An instruction that sets a register and the flag register. The flag is set first, so that in
the flag register itself the result remains. -/
def updateFlagged (r : Register) (f : Cpu → Bool × UInt8) : Action (Board δ) Flow :=
  update fun c =>
    let (flag, result) := f c
    (c.setFlag flag).setV r result

/-- Calls the subroutine at an address. -/
def callTo (target : UInt16) : Action (Board δ) Flow := fun b =>
  match b.cpu.push (b.cpu.pc + instructionSize) with
  | .ok cpu => ⟨{ b with cpu := { cpu with pc := target } }, .ok .jumped, []⟩
  | .error fault => ⟨b, .error fault, []⟩

/-- Returns from a subroutine. -/
def returnToCaller : Action (Board δ) Flow := fun b =>
  match b.cpu.pop with
  | .ok (address, cpu) => ⟨{ b with cpu := { cpu with pc := address } }, .ok .jumped, []⟩
  | .error fault => ⟨b, .error fault, []⟩

/-- Writes bytes to memory one after the other, from an address on. The bytes before one that
fails stay written. -/
def storeBytes (address : UInt16) : List UInt8 → Action (Board δ) Unit
  | [] => pure ()
  | b :: rest => do
    storeByte address b
    storeBytes (address + 1) rest

/-- Reads bytes from memory into registers one after the other, from an address on. The registers
before one that fails stay loaded. -/
def loadRegisters (address : UInt16) : List Register → Action (Board δ) Unit
  | [] => pure ()
  | r :: rest => do
    let value ← fetchByte address
    modifyCpu (·.setV r value)
    loadRegisters (address + 1) rest

/-- The registers from `V0` to `Vx`. -/
def registersUpTo (x : Register) : List Register :=
  (List.finRange 16).filter (· ≤ x)

/-- The three decimal digits of a byte, the hundreds first. -/
def decimalDigits (value : UInt8) : List UInt8 :=
  [value / 100, value / 10 % 10, value % 10]

section Devices

variable [Devices δ]

/-- Draws the eight pixels of one row of a sprite, the highest bit at column `left`, and tells
whether any of them turned a lit pixel off. -/
def drawRow (left y : Nat) (line : UInt8) (d : δ) : Bool × δ :=
  (List.range 8).foldl
    (fun (hit, d) column =>
      let (h, d) := Display.draw d (left + column) y (line &&& (0x80 >>> UInt8.ofNat column) != 0)
      (hit || h, d))
    (false, d)

/-- Draws `count` rows of a sprite. The rows before one that cannot be read stay drawn, and the
flag register is set as soon as a row turns a lit pixel off. -/
def drawRows (left top : Nat) (address : UInt16) : (count : Nat) → Action (Board δ) Unit
  | 0 => pure ()
  | count + 1 => do
    let line ← fetchByte address
    Action.modify fun b =>
      let (hit, d) := drawRow left top line b.devices
      { b with devices := d, cpu := if hit then b.cpu.setFlag true else b.cpu }
    drawRows left (top + 1) (address + 1) count

/-- Draws a sprite of `count` rows that lies in memory at the index. Its place is read from two
registers before the flag register is cleared. -/
def drawSprite (x y : Register) (count : Nat) : Action (Board δ) Flow := do
  let b ← Action.get
  modifyCpu (·.setFlag false)
  drawRows (b.cpu.v x).toNat (b.cpu.v y).toNat b.cpu.index count
  return .next

/-- Puts the newest key press into a register, or waits while there is none. -/
def awaitKey (x : Register) : Action (Board δ) Flow := fun b =>
  match Keypad.takePressed b.devices with
  | (some key, d) =>
    ⟨{ b with devices := d, cpu := b.cpu.setV x (UInt8.ofNat key.val) }, .ok .next, []⟩
  | (none, d) => ⟨{ b with devices := d }, .ok .wait, []⟩

/-- Puts a random byte, masked, into a register. -/
def randomInto (x : Register) (mask : UInt8) : Action (Board δ) Flow := fun b =>
  let (r, d) := RandomSource.nextByte b.devices
  ⟨{ b with devices := d, cpu := b.cpu.setV x (r &&& mask) }, .ok .next, []⟩

/-- The effect of an instruction, the program counter apart. An operand that is missing counts as
zero. -/
def perform (i : Instruction) : Action (Board δ) Flow :=
  let x := i.register 0
  let y := i.register 1
  let address := i.operand 0
  let byte := (i.operand 1).toUInt8
  match i.mnemonic with
  | .cls => fun b => ⟨b.mapDevices Display.clear, .ok .next, []⟩
  | .ret => returnToCaller
  | .sys => update id
  | .jump => jumpTo fun _ => address
  | .call => callTo address
  | .skipEqByte => skipIf fun b => b.cpu.v x == byte
  | .skipNeByte => skipIf fun b => b.cpu.v x != byte
  | .skipEq => skipIf fun b => b.cpu.v x == b.cpu.v y
  | .skipNe => skipIf fun b => b.cpu.v x != b.cpu.v y
  | .setByte => update fun c => c.setV x byte
  | .addByte => update fun c => c.setV x (c.v x + byte)
  | .copy => update fun c => c.setV x (c.v y)
  | .or => update fun c => c.setV x (c.v x ||| c.v y)
  | .and => update fun c => c.setV x (c.v x &&& c.v y)
  | .xor => update fun c => c.setV x (c.v x ^^^ c.v y)
  | .add => updateFlagged x fun c => (255 < (c.v x).toNat + (c.v y).toNat, c.v x + c.v y)
  | .sub => updateFlagged x fun c => (c.v y < c.v x, c.v x - c.v y)
  | .subFrom => updateFlagged x fun c => (c.v x < c.v y, c.v y - c.v x)
  | .shiftRight => updateFlagged x fun c => (c.v x &&& 1 != 0, c.v x >>> 1)
  | .shiftLeft => updateFlagged x fun c => (c.v x &&& 0x80 != 0, c.v x <<< 1)
  | .setIndex => update fun c => { c with index := address }
  | .jumpBeyond => jumpTo fun c => address + (c.v (nibble 0)).toUInt16
  | .random => randomInto x byte
  | .draw => drawSprite x y (i.operand 2).toNat
  | .skipKey => skipIf fun b => Keypad.isPressed b.devices (b.cpu.v x)
  | .skipNoKey => skipIf fun b => !Keypad.isPressed b.devices (b.cpu.v x)
  | .getDelay => update fun c => c.setV x c.delay
  | .waitKey => awaitKey x
  | .setDelay => update fun c => { c with delay := c.v x }
  | .setSound => update fun c => { c with sound := c.v x }
  | .addIndex => update fun c => { c with index := c.index + (c.v x).toUInt16 }
  | .glyph => update fun c => { c with index := Font.glyphAddress (c.v x) }
  | .digits => do
    let b ← Action.get
    storeBytes b.cpu.index (decimalDigits (b.cpu.v x))
    return .next
  | .store => do
    let b ← Action.get
    storeBytes b.cpu.index ((registersUpTo x).map b.cpu.v)
    update fun c => { c with index := c.index + UInt16.ofNat x.val }
  | .load => do
    let b ← Action.get
    loadRegisters b.cpu.index (registersUpTo x)
    update fun c => { c with index := c.index + UInt16.ofNat x.val }
  | .unknown => fun b => ⟨b, .ok .next, [.unknownWord i.word b.cpu.pc]⟩

/-- Carries out an instruction. An instruction that fails leaves the program counter where it
is. -/
def execute (i : Instruction) : Action (Board δ) Unit := do
  let b ← Action.get
  Action.note (.executing b.cpu.pc i)
  let flow ← perform i
  modifyCpu fun c => { c with pc := flow.advance c.pc }

end Devices

end Board

end Chip8
