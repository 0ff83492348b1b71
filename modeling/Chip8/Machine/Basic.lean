import Chip8.Clock.Clocks
import Chip8.Instruction.Table
import Chip8.Machine.Execute

set_option autoImplicit false
set_option relaxedAutoImplicit false

/-!
# Machines

A machine is a board with three clocks. At a tick of the cycle clock it carries out an instruction;
at a tick of the delay clock the delay timer counts down, the picture is shown and the keys are
looked at; at a tick of the sound clock the sound timer counts down and the speaker follows it.
Each tick is dealt with wholly before the next.

## Main definitions

* `Chip8.Machine` — a board, its clocks, whether the speaker is on and the instructions so far.
* `Chip8.Machine.create` — a machine that has just been switched on.
* `Chip8.Machine.cycle`, `Chip8.Machine.delayTick`, `Chip8.Machine.soundTick` — one tick of each
  clock.
* `Chip8.Machine.start`, `Chip8.Machine.stop` — all clocks at once.
* `Chip8.Machine.advanceTo` — every tick that is due by a time.
-/

namespace Chip8

/-- A CHIP-8 machine. -/
structure Machine (δ : Type) extends Board δ where
  /-- The clocks. -/
  clocks : Clocks
  /-- The speaker was last told to beep, and did not fail. -/
  soundOn : Bool
  /-- The number of instructions carried out without a failure. It has no bound: a word of 64 bits
  would overflow after `2 ^ 64` instructions, and nothing is said of what comes then. -/
  cycles : Nat

namespace Machine

variable {δ α : Type}

/-- The machine that is switched on with the given devices. It fails if its configuration makes no
sense. -/
def create (config : Config) (devices : δ) : Except Fault (Machine δ) := do
  config.validate
  Table.standard.check
  return ⟨⟨.powerOn, .powerOn, devices⟩, .ofConfig config, false, 0⟩

/-- Does something to the board. -/
def onBoard (x : Action (Board δ) α) : Action (Machine δ) α :=
  x.zoom Machine.toBoard fun b m => { m with toBoard := b }

/-- Does something to the clocks. -/
def onClocks (x : Action Clocks α) : Action (Machine δ) α :=
  x.zoom Machine.clocks fun c m => { m with clocks := c }

/-- Does something to the devices. -/
def onDevices (x : Action δ α) : Action (Machine δ) α :=
  onBoard (Board.onDevices x)

/-- Does something to the processor. -/
def modifyCpu (f : Cpu → Cpu) : Action (Machine δ) Unit :=
  onBoard (Board.modifyCpu f)

/-- Remembers what the speaker was told. -/
def setSoundOn (on : Bool) : Action (Machine δ) Unit :=
  .modify fun m => { m with soundOn := on }

/-- Puts a program into memory and answers its size. -/
def load (feed : Feed) : Action (Machine δ) Nat :=
  onBoard ((Memory.load feed).zoom Board.memory fun m b => { b with memory := m })

/-- The clocks run. -/
def isRunning (m : Machine δ) : Bool := m.clocks.isRunning

/-- When the next tick is due; none when the clocks are stopped. -/
def deadline (m : Machine δ) : Option Nat := m.clocks.deadline

/-- Starts the clocks. -/
def start (now : Nat) : Action (Machine δ) Unit := onClocks (Clocks.start now)

section Devices

variable [Devices δ]

/-- Carries out the instruction at the program counter. -/
def cycle : Action (Machine δ) Instruction := do
  let word ← Action.query fun m => m.memory.getWord m.cpu.pc
  let instruction := Table.standard.decode word
  onBoard (Board.execute instruction)
  Action.modify fun m => { m with cycles := m.cycles + 1 }
  return instruction

/-- Carries out up to `n` instructions, and stops at the first that fails. The answer is how many
were carried out, and the outcome. -/
def runCycles : (n : Nat) → Machine δ → Nat × Outcome (Machine δ) Unit
  | 0, m => (0, ⟨m, .ok (), []⟩)
  | n + 1, m =>
    match cycle m with
    | ⟨m', .error fault, notices⟩ => (0, ⟨m', .error fault, notices⟩)
    | ⟨m', .ok _, notices⟩ =>
      let (ran, o) := runCycles n m'
      (ran + 1, { o with notices := notices ++ o.notices })

/-- One period of the delay timer. The timer counts down even if a device fails. -/
def delayTick : Action (Machine δ) Unit := do
  modifyCpu Cpu.tickDelay
  onDevices Display.present
  onDevices Keypad.poll

/-- Silences the speaker if it is on. -/
def silence : Action (Machine δ) Unit := do
  let m ← Action.get
  if m.soundOn then
    onDevices Speaker.silence
    setSoundOn false

/-- Lets the speaker beep unless it is on. -/
def beep : Action (Machine δ) Unit := do
  let m ← Action.get
  if !m.soundOn then
    onDevices Speaker.beep
    setSoundOn true

/-- One period of the sound timer. The speaker is told only when it is to change. -/
def soundTick : Action (Machine δ) Unit := do
  modifyCpu Cpu.tickSound
  let m ← Action.get
  if 0 < m.cpu.sound then beep else silence

/-- Stops the clocks and silences the speaker. -/
def stop : Action (Machine δ) Unit := do
  onClocks Clocks.stop
  silence

/-- What a tick makes the machine do. -/
def handle : Tick → Action (Machine δ) Unit
  | .delay => delayTick
  | .sound => soundTick
  | .cycle => do let _ ← cycle

/-- Deals with ticks that are due by `now`, in order, but with no more than `limit` of them. A tick
that fails has been taken all the same, and those behind it stay due. -/
def advance : (limit : Nat) → (now : Nat) → Action (Machine δ) Unit
  | 0, _ => pure ()
  | limit + 1, now => fun m =>
    match m.clocks.pop now with
    | none => ⟨m, .ok (), []⟩
    | some ((tick, _), clocks) =>
      (do
        handle tick
        advance limit now : Action (Machine δ) Unit) { m with clocks := clocks }

/-- Deals with every tick that is due by `now`, in order, unless one fails. -/
def advanceTo (now : Nat) : Action (Machine δ) Unit := fun m =>
  advance (m.clocks.dueCount now) now m

end Devices

end Machine

end Chip8
