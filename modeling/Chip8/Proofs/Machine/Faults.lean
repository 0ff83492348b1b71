import Chip8.Proofs.Machine.Built

set_option autoImplicit false
set_option relaxedAutoImplicit false

/-!
# When a machine fails

When an instruction fails, when a machine does, and what stays as it was, for devices that lie side
by side: display, keypad, speaker and source of random bytes.

## Main definitions

* `Chip8.Board.Unhurt` — what no failure touches.

## Main results

* `Chip8.Board.unhurt_of_error` — an instruction that fails does not touch it.
* `Chip8.Machine.fails_exactly` — when an instruction and a machine fail, and what stays as it was.
-/

namespace Chip8

variable {D K S R : Type}

/-- What no failure touches: all of the processor but its registers, and the devices but the
display. A key press that is pending is still pending, and no random byte has been drawn. -/
structure Board.Unhurt (b b' : Board (Panel D K S R)) : Prop where
  pc : b'.cpu.pc = b.cpu.pc
  index : b'.cpu.index = b.cpu.index
  delay : b'.cpu.delay = b.cpu.delay
  sound : b'.cpu.sound = b.cpu.sound
  stack : b'.cpu.stack = b.cpu.stack
  keypad : b'.devices.keypad = b.devices.keypad
  speaker : b'.devices.speaker = b.devices.speaker
  random : b'.devices.random = b.devices.random

variable [Display D] [Keypad K] [Speaker S] [RandomSource R]

/-- An instruction that fails does not touch it. -/
lemma Board.unhurt_of_error {i : Instruction} {b : Board (Panel D K S R)} {fault : Fault}
    (h : (execute i b).result = .error fault) : b.Unhurt (execute i b).state where
  pc := same_of_error h (p := .pc) (by decide)
  index := same_of_error h (p := .index) (by decide)
  delay := same_of_error h (p := .delay) (by decide)
  sound := same_of_error h (p := .sound) (by decide)
  stack := same_of_error h (p := .stack) (by decide)
  keypad := part_of_error h fun _ _ _ _ => rfl
  speaker := part_of_error h fun _ _ _ _ => rfl
  random := part_of_error h fun _ _ _ _ => rfl

namespace Machine

/-- A machine that fails is not touched there either. -/
lemma unhurt_of_error {m : Machine (Panel D K S R)} {fault : Fault}
    (h : (cycle m).result = .error fault) : m.toBoard.Unhurt (cycle m).state.toBoard := by
  rcases hc : cycle m with ⟨m', r, ns⟩
  rw [hc] at h
  obtain rfl : r = .error fault := h
  rcases cycle_eq_error hc with ⟨-, rfl⟩ | ⟨word, b, -, hrun, rfl⟩
  · exact ⟨rfl, rfl, rfl, rfl, rfl, rfl, rfl, rfl⟩
  · have hunhurt := Board.unhurt_of_error (congrArg Outcome.result hrun)
    rw [hrun] at hunhurt
    exact hunhurt

/-- **When an instruction and a machine fail.** An instruction, whatever table it comes from, fails
exactly if it returns without a call, calls without room for it, or goes through bytes of which not
all lie in memory; then the fault names the first that does not. Where the bytes end is told in
exact arithmetic: the way ends with memory, long before an address wraps. A machine fails if its
instruction does, and besides, without doing anything, exactly if the word at its program counter is
not in memory. No failure touches the program counter, the index, the timers, the call stack, a
pending key press or the source of random bytes, and none is counted.

**Proof sketch.** Every loop of an instruction is a walk through memory, of which the first byte
decides alone: if it is in memory, the next address does not wrap, and the rest is a walk again. -/
theorem fails_exactly (i : Instruction) (b : Board (Panel D K S R)) (m : Machine (Panel D K S R)) :
    (∀ fault, (Board.execute i b).result = .error fault ↔ Board.Fails i b fault) ∧
      (∀ fault, (Board.execute i b).result = .error fault →
        b.Unhurt (Board.execute i b).state) ∧
      (∀ fault, (cycle m).result = .error fault ↔
        Memory.size < m.cpu.pc.toNat + 2 ∧ fault = .outOfRange m.cpu.pc.toNat 2 ∨
          ∃ word, m.memory.getWord m.cpu.pc = .ok word ∧
            Board.Fails (Table.standard.decode word) m.toBoard fault) ∧
      ((cycle m).result = .error (.outOfRange m.cpu.pc.toNat 2) ↔
        Memory.size < m.cpu.pc.toNat + 2) ∧
      (Memory.size < m.cpu.pc.toNat + 2 →
        cycle m = ⟨m, .error (.outOfRange m.cpu.pc.toNat 2), []⟩) ∧
      ∀ fault, (cycle m).result = .error fault →
        m.toBoard.Unhurt (cycle m).state.toBoard ∧ (cycle m).state.cycles = m.cycles := by
  refine ⟨fun _ => Board.result_execute_iff, fun _ h => Board.unhurt_of_error h,
    fun _ => result_cycle_iff, ?_, cycle_of_outside,
    fun _ h => ⟨unhurt_of_error h, cycles_of_error h⟩⟩
  rw [result_cycle_iff]
  constructor
  · rintro (⟨h, -⟩ | ⟨word, -, hfails⟩)
    · exact h
    · exact absurd hfails.size_eq_one (by decide)
  · exact fun h => .inl ⟨h, rfl⟩

/-- A sprite of two rows of which the second is not in memory, and a machine at the last byte of
memory. -/
theorem fails_exactly_at_end :
    let b : Board (Panel Scripted.Screen Scripted.Keys Scripted.Buzzer Replay) :=
      ⟨{ Cpu.powerOn with index := 4095 }, .powerOn, benchDevices⟩
    let m := { bench with cpu := { bench.cpu with pc := 4095 } }
    let i : Instruction := ⟨.draw, 0xd012, [0, 1, 2]⟩
    (Board.execute i b).result = .error (.outOfRange 4096 1) ∧
      (Board.execute i b).state.cpu.index = 4095 ∧
      cycle m = ⟨m, .error (.outOfRange 4095 2), []⟩ ∧ (cycle m).state.cycles = m.cycles := by
  intro b m i
  obtain ⟨hfails, hunhurt, -, -, hleft, hcount⟩ := fails_exactly i b m
  have hdraw : (Board.execute i b).result = .error (.outOfRange 4096 1) :=
    (hfails _).mpr (.outside (by decide) (by decide))
  have hcycle : cycle m = ⟨m, .error (.outOfRange 4095 2), []⟩ := hleft (by decide)
  exact ⟨hdraw, (hunhurt _ hdraw).index, hcycle, (hcount _ (by rw [hcycle])).2⟩

end Machine

end Chip8
