import Chip8.Machine.Call

/-!
# What a success leaves behind

An instruction that can fail asks one part of the machine for something, and goes on only
if it gets it.  The lemmas here turn a success around: they give what the part has answered
and the machine that comes of it.  Whole steps and loads are turned around in the same way.
-/

namespace Chip8.Machine

variable {machine next : Machine}

/-! ## Instructions -/

theorem execute_returnToCaller_ok : machine.execute .returnToCaller = .ok next ↔
    ∃ popped, machine.stack.pop = .ok popped ∧
      { machine with stack := popped.2 }.goTo popped.1 = next := by
  rw [execute]
  cases machine.stack.pop with
  | error fault => simp
  | ok popped => simp

theorem execute_call_ok {target : Address} : machine.execute (.call target) = .ok next ↔
    ∃ stack, machine.stack.push (machine.counter.offset 2) = .ok stack ∧
      { machine with stack := stack }.goTo target = next := by
  rw [execute]
  cases machine.stack.push (machine.counter.offset 2) with
  | error fault => simp
  | ok pushed => simp

theorem execute_saveFlags_ok {x : Register} : machine.execute (.saveFlags x) = .ok next ↔
    ∃ flags, machine.flags.save (machine.registersUpTo x) = .ok flags ∧
      { machine with flags := flags }.advance = next := by
  rw [execute]
  cases machine.flags.save (machine.registersUpTo x) with
  | error fault => simp
  | ok saved => simp

/-- `FX85` changes no more than registers. -/
theorem registers_of_restoreFlags {x : Register}
    (hexecute : machine.execute (.restoreFlags x) = .ok next) :
    ∃ registers, { machine with registers := registers }.advance = next := by
  rw [execute] at hexecute
  cases hrestore : machine.flags.restore (x.val + 1) with
  | error fault => simp [hrestore] at hexecute
  | ok values =>
      simp only [hrestore] at hexecute
      exact ⟨_, Except.ok.inj hexecute⟩

/-- Neither does `FX65`, which cannot fail. -/
theorem registers_of_loadRegisters {x : Register}
    (hexecute : machine.execute (.loadRegisters x) = .ok next) :
    ∃ registers, { machine with registers := registers }.advance = next :=
  ⟨_, Except.ok.inj hexecute⟩

/-! ## Steps and loads -/

/-- A step that succeeds waits for a key, or carries out the instruction at its word. -/
theorem step_cases (hstep : machine.step = .ok next) :
    (machine.isWaiting = true ∧ machine = next) ∨
      (machine.isWaiting = false ∧ ∃ instruction,
        Instruction.decode? machine.word = some instruction ∧
          machine.execute instruction = .ok next) := by
  unfold step at hstep
  cases hwaiting : machine.isWaiting with
  | true =>
      rw [hwaiting, if_pos rfl] at hstep
      exact .inl ⟨rfl, Except.ok.inj hstep⟩
  | false =>
      rw [hwaiting, if_neg Bool.false_ne_true] at hstep
      cases hdecode : Instruction.decode? machine.word with
      | none => simp [hdecode] at hstep
      | some instruction =>
          simp only [hdecode] at hstep
          exact .inr ⟨rfl, instruction, rfl, hstep⟩

theorem execute_of_step (hwaiting : machine.isWaiting = false) (hstep : machine.step = .ok next) :
    ∃ instruction, Instruction.decode? machine.word = some instruction ∧
      machine.execute instruction = .ok next := by
  rcases step_cases hstep with ⟨hheld, -⟩ | ⟨-, hexecute⟩
  · rw [hwaiting] at hheld
    contradiction
  · exact hexecute

/-- All machines that are loaded differ in nothing but their memory, seed and flags. -/
theorem eq_of_load {program : List UInt8} {seed initialFlags : UInt64}
    (hload : load program seed initialFlags = .ok machine) :
    ∃ memory, machine = {
      memory := memory
      registers := Vector.replicate 16 0
      counter := Memory.programStart
      index := .zero
      stack := .empty .zero
      timers := {}
      screen := .blank
      flags := .ofPacked initialFlags
      keys := {}
      random := { seed := seed }
      drawnBytes := 0 } := by
  unfold load at hload
  split at hload
  · contradiction
  · next memory hmemory => exact ⟨memory, (Except.ok.inj hload).symm⟩

end Chip8.Machine
