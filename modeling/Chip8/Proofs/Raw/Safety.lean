import Chip8.Proofs.Raw.Simulation

/-!
# No program breaks the machine

A program that fits into memory gives a stored machine that is well-formed, and
that stays so under any list of calls.  On such a machine nothing crashes: not
the calls, and not the questions about registers, pixels and memory either.
-/

namespace Chip8.Raw.Machine

/-- A machine that some program, seed and flags and some list of calls lead to. -/
def Reachable (machine : Machine) : Prop :=
  ∃ program seed initialFlags calls fresh,
    load program seed initialFlags = .ok (.ok fresh) ∧ fresh.afterAll calls = .ok machine

/-- Whatever is asked of a machine, there is an answer, not a crash. -/
structure AnswersAll (machine : Machine) : Prop where
  call : ∀ call, ∃ attempt, machine.answer call = .ok attempt
  register : ∀ x, ∃ value, machine.register x = .ok value
  pixel : ∀ x y, ∃ lit, machine.display.pixel x y = .ok lit
  word : ∃ word, machine.word = .ok word
  byteAt : ∀ address, ∃ byte, readByte machine.memory address = .ok byte
  bytesAt : ∀ address out, ∃ bytes, readBytes machine.memory address out = .ok bytes
  wordAt : ∀ address, ∃ word, wordAt machine.memory address = .ok word

variable {machine : Machine}

theorem WellFormed.answersAll (hmachine : machine.WellFormed) : machine.AnswersAll where
  call := by
    intro call
    rcases answer_cases hmachine call with ⟨next, hanswer, -⟩ | ⟨fault, hanswer, -⟩
    · exact ⟨_, hanswer⟩
    · exact ⟨_, hanswer⟩
  register := fun x => ⟨_, register_eq x⟩
  pixel := fun x y => ⟨_, FrameBuffer.pixel_eq machine.display x y⟩
  word := ⟨_, word_eq machine⟩
  byteAt := fun address => ⟨_, readByte_eq machine.memory address⟩
  bytesAt := fun address out => ⟨_, readBytes_eq machine.memory address out⟩
  wordAt := fun address => ⟨_, wordAt_eq machine.memory address⟩

/-- A load succeeds if the program is no longer than the memory behind its load
address. -/
theorem load_of_length_le {program : List UInt8}
    (hlength : program.length ≤ Memory.maxProgramLength) (seed initialFlags : UInt64) :
    ∃ fresh, load program seed initialFlags = .ok (.ok fresh) ∧ fresh.WellFormed ∧
      Chip8.Machine.load program seed initialFlags = .ok fresh.view := by
  rcases load_cases program seed initialFlags with
    ⟨fault, _, htyped⟩ | ⟨fresh, hload, hfresh, htyped⟩
  · rw [Chip8.Machine.load, Memory.loadProgram, if_pos hlength] at htyped
    contradiction
  · exact ⟨fresh, hload, hfresh, htyped⟩

theorem Reachable.wellFormed (hreachable : machine.Reachable) : machine.WellFormed := by
  obtain ⟨program, seed, initialFlags, calls, fresh, hload, hcalls⟩ := hreachable
  obtain ⟨hfresh, _⟩ := wellFormed_of_load hload
  obtain ⟨last, hlast, hlastWell, _⟩ := afterAll_eq hfresh calls
  rw [hcalls] at hlast
  cases hlast
  exact hlastWell

/-- Every program that fits can be loaded, and after any calls on the machine its
words are in range and it answers whatever is asked. -/
theorem no_program_crashes (program : List UInt8) (hlength : program.length ≤ 3584)
    (seed initialFlags : UInt64) (calls : List Machine.Call) :
    ∃ fresh last, load program seed initialFlags = .ok (.ok fresh) ∧
      fresh.afterAll calls = .ok last ∧ last.WellFormed ∧ last.AnswersAll := by
  obtain ⟨fresh, hload, hfresh, _⟩ := load_of_length_le hlength seed initialFlags
  obtain ⟨last, hlast, hwellFormed, _⟩ := afterAll_eq hfresh calls
  exact ⟨fresh, last, hload, hlast, hwellFormed, hwellFormed.answersAll⟩

/-- A return without a call, and then a program that is too long. -/
theorem no_program_crashes_return :
    ([0x00, 0xEE] : List UInt8).length ≤ 3584 ∧
      ∃ fresh last, load [0x00, 0xEE] 1 2 = .ok (.ok fresh) ∧
        fresh.afterAll [.step, .reset (List.replicate 4000 0) 0 0, .step] = .ok last ∧
        last.WellFormed ∧ last.AnswersAll :=
  ⟨by decide, no_program_crashes [0x00, 0xEE] (by decide) 1 2 _⟩

end Chip8.Raw.Machine
