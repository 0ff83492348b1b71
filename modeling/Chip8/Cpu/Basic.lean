import Chip8.Cpu.CallStack
import Chip8.Fault
import Chip8.Instruction.Basic
import Chip8.Row

set_option autoImplicit false
set_option relaxedAutoImplicit false

/-!
# The processor

The registers, the index, the program counter, the two timers and the call stack. Only
instructions change them, except that the timers are counted down by their clocks.

## Main definitions

* `Chip8.Cpu` — the state of the processor, and `Cpu.powerOn` the one to begin with, to which
  `Cpu.reset` goes back.
* `Chip8.Cpu.push`, `Chip8.Cpu.pop` — calls and returns, which fail with the program counter.
* `Chip8.Cpu.tickDelay`, `Chip8.Cpu.tickSound` — one period of a timer.
-/

namespace Chip8

/-- Where a program begins in memory. -/
def programStart : UInt16 := 0x200

/-- The state of the processor. -/
structure Cpu where
  /-- The registers `V0` to `VF`. -/
  registers : Vector UInt8 16
  /-- The index: an address that instructions read and write at. All sixteen bits count. -/
  index : UInt16
  /-- The address of the next instruction. -/
  pc : UInt16
  /-- The delay timer. -/
  delay : UInt8
  /-- The sound timer. -/
  sound : UInt8
  /-- The return addresses. -/
  stack : CallStack
  deriving DecidableEq, Repr

namespace Cpu

/-- The processor when it is switched on. -/
def powerOn : Cpu := ⟨Vector.replicate 16 0, 0, programStart, 0, 0, .empty⟩

/-- The processor after it has been switched off and on again. Nothing of it is left, not even in
slots of the stack that are not in use. -/
def reset (_ : Cpu) : Cpu := powerOn

/-- The register that instructions put a carry, a comparison or a collision into. -/
def flagRegister : Register := nibble 15

/-- The value of a register. -/
def v (c : Cpu) (r : Register) : UInt8 :=
  c.registers.get r

/-- The processor with another value in a register. -/
def setV (c : Cpu) (r : Register) (value : UInt8) : Cpu :=
  { c with registers := Row.replace c.registers r value }

theorem v_setV (c : Cpu) (r q : Register) (value : UInt8) :
    (c.setV r value).v q = if r = q then value else c.v q := by
  simp [v, setV, Row.get_replace]

/-- The processor with other values in its first registers. -/
def setRegisters (c : Cpu) (values : List UInt8) : Cpu :=
  { c with registers := Row.overwrite c.registers 0 values }

/-- The value of the flag register. -/
def flag (c : Cpu) : UInt8 := c.v flagRegister

/-- The processor with one or zero in the flag register. -/
def setFlag (c : Cpu) (on : Bool) : Cpu := c.setV flagRegister on.toUInt8

/-- The processor with one more return address; it fails when the stack is full. -/
def push (c : Cpu) (address : UInt16) : Except Fault Cpu :=
  match c.stack.push? address with
  | some stack => .ok { c with stack := stack }
  | none => .error (.stackOverflow c.pc)

/-- The newest return address, and the processor without it; it fails when the stack is empty. -/
def pop (c : Cpu) : Except Fault (UInt16 × Cpu) :=
  match c.stack.pop? with
  | some (address, stack) => .ok (address, { c with stack := stack })
  | none => .error (.stackUnderflow c.pc)

/-- One less on a timer, unless it stands at zero. -/
def countDown (timer : UInt8) : UInt8 :=
  if timer = 0 then 0 else timer - 1

/-- The processor after one period of the delay timer. -/
def tickDelay (c : Cpu) : Cpu := { c with delay := countDown c.delay }

/-- The processor after one period of the sound timer. -/
def tickSound (c : Cpu) : Cpu := { c with sound := countDown c.sound }

end Cpu

end Chip8
