import Chip8.Memory
import Chip8.Panel

set_option autoImplicit false
set_option relaxedAutoImplicit false

/-!
# Boards

A board is all that an instruction can reach: the processor, the memory and the devices.

## Main definitions

* `Chip8.Board` — processor, memory and devices.
* `Chip8.Board.fetchByte`, `Chip8.Board.storeByte` — a byte of memory.
-/

namespace Chip8

/-- The processor, the memory and the devices of a machine. -/
structure Board (δ : Type) where
  /-- The processor. -/
  cpu : Cpu
  /-- The memory. -/
  memory : Memory
  /-- The devices. -/
  devices : δ

namespace Board

variable {δ α : Type}

/-- The board with a changed processor. -/
def mapCpu (f : Cpu → Cpu) (b : Board δ) : Board δ := { b with cpu := f b.cpu }

/-- The board with changed devices. -/
def mapDevices (f : δ → δ) (b : Board δ) : Board δ := { b with devices := f b.devices }

/-- Changes the processor. -/
def modifyCpu (f : Cpu → Cpu) : Action (Board δ) Unit := .modify (mapCpu f)

/-- Does something to the devices. -/
def onDevices (x : Action δ α) : Action (Board δ) α :=
  x.zoom Board.devices fun d b => { b with devices := d }

/-- Reads the byte at an address. -/
def fetchByte (address : UInt16) : Action (Board δ) UInt8 :=
  .query fun b => b.memory.getByte address

/-- Writes the byte at an address. -/
def storeByte (address : UInt16) (value : UInt8) : Action (Board δ) Unit :=
  .attempt fun b => (b.memory.setByte address value).map fun m => { b with memory := m }

end Board

end Chip8
