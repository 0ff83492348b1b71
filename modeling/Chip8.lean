import Chip8.Action
import Chip8.Clock.Basic
import Chip8.Clock.Clocks
import Chip8.Clock.Tick
import Chip8.CommandLine
import Chip8.Config
import Chip8.Cpu.Basic
import Chip8.Cpu.CallStack
import Chip8.Display.Basic
import Chip8.Display.Drawing
import Chip8.Display.Frame
import Chip8.Display.Terminal
import Chip8.Emulator.Basic
import Chip8.Emulator.Canvas
import Chip8.Emulator.Screen
import Chip8.Fault
import Chip8.Font
import Chip8.Instruction.Basic
import Chip8.Instruction.Mnemonic
import Chip8.Instruction.Pattern
import Chip8.Instruction.Table
import Chip8.Keypad.Basic
import Chip8.Keypad.Key
import Chip8.Keypad.Keyboard
import Chip8.Keypad.Switches
import Chip8.Machine.Basic
import Chip8.Machine.Board
import Chip8.Machine.Execute
import Chip8.Machine.Loop
import Chip8.Main
import Chip8.Memory
import Chip8.Nibble
import Chip8.Notice
import Chip8.Panel
import Chip8.Proofs.Clock.Drain
import Chip8.Proofs.Clock.History
import Chip8.Proofs.Clock.Pop
import Chip8.Proofs.Commutes
import Chip8.Proofs.Devices.Listener
import Chip8.Proofs.Devices.Recorder
import Chip8.Proofs.Display.Packed
import Chip8.Proofs.Display.Painter
import Chip8.Proofs.Display.Resize
import Chip8.Proofs.Display.Showing
import Chip8.Proofs.Display.Sprite
import Chip8.Proofs.Display.Torus
import Chip8.Proofs.Emulator.Observant
import Chip8.Proofs.Emulator.Picture
import Chip8.Proofs.Instruction.Arithmetic
import Chip8.Proofs.Instruction.Check
import Chip8.Proofs.Instruction.Draw
import Chip8.Proofs.Instruction.Effect
import Chip8.Proofs.Instruction.Encoding
import Chip8.Proofs.Instruction.Failure
import Chip8.Proofs.Instruction.Flow
import Chip8.Proofs.Instruction.Frame
import Chip8.Proofs.Instruction.Pattern
import Chip8.Proofs.Instruction.Redraw
import Chip8.Proofs.Instruction.Reload
import Chip8.Proofs.Instruction.StaleSlots
import Chip8.Proofs.Instruction.Table
import Chip8.Proofs.Instruction.Transfer
import Chip8.Proofs.Instruction.Unread
import Chip8.Proofs.Keeps
import Chip8.Proofs.Keypad.History
import Chip8.Proofs.Keypad.Latch
import Chip8.Proofs.Keypad.Mirror
import Chip8.Proofs.Machine.Advance
import Chip8.Proofs.Machine.Batch
import Chip8.Proofs.Machine.Beeping
import Chip8.Proofs.Machine.Bounds
import Chip8.Proofs.Machine.Built
import Chip8.Proofs.Machine.Cycle
import Chip8.Proofs.Machine.Faults
import Chip8.Proofs.Machine.Frequency
import Chip8.Proofs.Machine.KeyWait
import Chip8.Proofs.Machine.Looks
import Chip8.Proofs.Machine.Map
import Chip8.Proofs.Machine.Pace
import Chip8.Proofs.Machine.Random
import Chip8.Proofs.Machine.Retry
import Chip8.Proofs.Machine.Run
import Chip8.Proofs.Machine.Sound
import Chip8.Proofs.Machine.Split
import Chip8.Proofs.Machine.Subroutine
import Chip8.Proofs.Machine.Tell
import Chip8.Proofs.Machine.Tick
import Chip8.Proofs.Machine.Turns
import Chip8.Proofs.Memory.Bytes
import Chip8.Random.Basic
import Chip8.Random.ChaCha
import Chip8.Row
import Chip8.Scripted
import Chip8.Speaker.Basic
import Chip8.Speaker.Beeper
import Chip8.Text.Duration
import Chip8.Text.Hex
import Chip8.Text.Quoted
import Chip8.Text.Unseen
