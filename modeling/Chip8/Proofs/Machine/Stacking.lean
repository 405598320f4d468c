import Chip8.Proofs.Instruction.Patterns
import Chip8.Proofs.Machine.Executing

/-!
# What changes the stack

`2NNN` saves the address behind it on top of the others, and `00EE` takes the top
one off and goes on there.  No other instruction changes the stack, and neither does
anything else that is done to a machine, unless it is reset.
-/

namespace Chip8.Machine

variable {machine next : Machine}

/-- What the instruction at a word does to the saved addresses. -/
inductive Stacking (machine : Machine) (word : UInt16) (next : Machine) : Prop where
  | called (hlead : word.toNat / 0x1000 = 0x2)
      (hstack : next.stack.toList = machine.counter.offset 2 :: machine.stack.toList)
  | returned (hword : word = 0x00EE)
      (hstack : machine.stack.toList = next.counter :: next.stack.toList)
  | kept (hlead : word.toNat / 0x1000 ≠ 0x2) (hword : word ≠ 0x00EE)
      (hstack : next.stack.toList = machine.stack.toList)

theorem Stacking.of_call {word : UInt16} (hstacking : machine.Stacking word next)
    (hlead : word.toNat / 0x1000 = 0x2) :
    next.stack.toList = machine.counter.offset 2 :: machine.stack.toList := by
  cases hstacking with
  | called hcall hstack => exact hstack
  | returned hword hstack =>
      rw [hword] at hlead
      exact absurd hlead (by decide)
  | kept hother hword hstack => exact absurd hlead hother

theorem Stacking.of_return (hstacking : machine.Stacking 0x00EE next) :
    machine.stack.toList = next.counter :: next.stack.toList := by
  cases hstacking with
  | called hlead hstack => exact absurd hlead (by decide)
  | returned hword hstack => exact hstack
  | kept hlead hother hstack => exact absurd rfl hother

/-- A call makes the stack one deeper, and a return one lower. -/
theorem Stacking.length_toList {word : UInt16} (hstacking : machine.Stacking word next) :
    next.stack.toList.length + [word].count 0x00EE
      = machine.stack.toList.length + [word].countP fun word => word.toNat / 0x1000 = 0x2 := by
  cases hstacking with
  | called hlead hstack =>
      have hother : word ≠ 0x00EE := by
        intro hword
        rw [hword] at hlead
        exact absurd hlead (by decide)
      rw [hstack, List.count_cons_of_ne hother, List.countP_cons_of_pos (by simpa using hlead)]
      rfl
  | returned hword hstack =>
      rw [hstack, hword]
      rfl
  | kept hlead hword hstack =>
      rw [hstack, List.count_cons_of_ne hword, List.countP_cons_of_neg (by simpa using hlead)]
      rfl

theorem stacking_of_execute {word : UInt16} {instruction : Instruction}
    (hdecode : Instruction.decode? word = some instruction)
    (hexecute : machine.execute instruction = .ok next) : machine.Stacking word next := by
  -- the word of an instruction tells whether it is a call or a return
  have hkept (hcall : ∀ target, instruction ≠ .call target)
      (hreturn : instruction ≠ .returnToCaller) (hstack : next.stack = machine.stack) :
      machine.Stacking word next := by
    refine .kept ?_ ?_ (congrArg CallStack.toList hstack)
    · intro hlead
      rw [Instruction.decode?_call hlead] at hdecode
      exact hcall _ (Option.some.inj hdecode).symm
    · intro hword
      rw [hword, Instruction.decode?_return] at hdecode
      exact hreturn (Option.some.inj hdecode).symm
  have hencode := Instruction.encodeNat_of_decode? hdecode
  cases instruction
  case call target =>
    obtain ⟨pushed, hpush, rfl⟩ := execute_call_ok.mp hexecute
    refine .called ?_ (CallStack.toList_of_push hpush)
    rw [← hencode]
    exact Instruction.addressWord_lead 0x2 target
  case returnToCaller =>
    obtain ⟨popped, hpop, rfl⟩ := execute_returnToCaller_ok.mp hexecute
    exact .returned (UInt16.toNat_inj.mp hencode.symm) (CallStack.toList_of_pop hpop)
  case saveFlags x =>
    obtain ⟨saved, -, rfl⟩ := execute_saveFlags_ok.mp hexecute
    exact hkept (by simp) (by simp) rfl
  case loadRegisters x =>
    obtain ⟨registers, rfl⟩ := registers_of_loadRegisters hexecute
    exact hkept (by simp) (by simp) rfl
  case restoreFlags x =>
    obtain ⟨registers, rfl⟩ := registers_of_restoreFlags hexecute
    exact hkept (by simp) (by simp) rfl
  -- all others succeed and leave the stack alone
  all_goals
    cases hexecute
    exact hkept (by simp) (by simp) rfl

/-- What a step does to the saved addresses, if it carries out an instruction. -/
theorem stacking_of_step (hwaiting : machine.isWaiting = false) (hstep : machine.step = .ok next) :
    machine.Stacking machine.word next := by
  obtain ⟨instruction, hdecode, hexecute⟩ := execute_of_step hwaiting hstep
  exact stacking_of_execute hdecode hexecute

theorem stack_setKeys (machine : Machine) (mask : KeyMask) :
    (machine.setKeys mask).stack = machine.stack := by
  unfold setKeys
  split
  · rfl
  · rfl

/-- A machine starts with an empty stack. -/
theorem stack_of_load {program : List UInt8} {seed initialFlags : UInt64}
    (hload : load program seed initialFlags = .ok machine) : machine.stack = .empty .zero := by
  obtain ⟨memory, rfl⟩ := eq_of_load hload
  rfl

/-- Nothing but a step or a reset changes the stack. -/
theorem stack_of_answer {call : Call} (hstep : call ≠ .step)
    (hreset : ∀ program seed initialFlags, call ≠ .reset program seed initialFlags)
    (hanswer : machine.answer call = .ok next) : next.stack = machine.stack := by
  cases call with
  | step => exact absurd rfl hstep
  | reset program seed initialFlags => exact absurd rfl (hreset program seed initialFlags)
  | setKeys mask =>
      cases hanswer
      exact machine.stack_setKeys mask
  | tick | acknowledgeScreen | acknowledgeFlags | resetDrawnBytes =>
      cases hanswer
      rfl

end Chip8.Machine
