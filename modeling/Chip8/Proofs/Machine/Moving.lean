import Chip8.Proofs.Machine.Stacking

/-!
# Where execution goes on

Behind most instructions the next one follows, or the one after it.  `1NNN`, `2NNN` and
`BNNN` name the address to go on at, and `00EE` takes it off the stack.
-/

namespace Chip8.Machine

variable {machine next : Machine}

/-- Where the instruction at a word lets execution go on. -/
inductive Moving (machine : Machine) (word : UInt16) (next : Machine) : Prop where
  | onward (distance : Nat) (hdistance : distance = 2 ∨ distance = 4)
      (hcounter : next.counter = machine.counter.offset distance)
  | jumped (hlead : word.toNat / 0x1000 = 0x1 ∨ word.toNat / 0x1000 = 0x2)
      (hcounter : next.counter = Address.ofNat (word.toNat % 0x1000))
  | jumpedByV0 (hlead : word.toNat / 0x1000 = 0xB)
      (hcounter : next.counter
        = Address.ofNat (word.toNat % 0x1000 + (machine.register .v0).toNat))
  | returned (hword : word = 0x00EE)

theorem Moving.advance {word : UInt16} (hcounter : next.counter = machine.counter) :
    machine.Moving word next.advance :=
  .onward 2 (.inl rfl) (congrArg (Address.offset · 2) hcounter)

theorem Moving.skipWhen (machine : Machine) (word : UInt16) (condition : Bool) :
    machine.Moving word (machine.skipWhen condition) := by
  cases condition with
  | false => exact .onward 2 (.inl rfl) rfl
  | true => exact .onward 4 (.inr rfl) rfl

theorem moving_of_execute {word : UInt16} {instruction : Instruction}
    (hdecode : Instruction.decode? word = some instruction)
    (hexecute : machine.execute instruction = .ok next) : machine.Moving word next := by
  have hencode := Instruction.encodeNat_of_decode? hdecode
  have htarget (lead : Nat) (target : Address)
      (hword : Instruction.addressWord lead target = word.toNat) :
      word.toNat / 0x1000 = lead ∧ word.toNat % 0x1000 = target.val := by
    rw [← hword]
    exact ⟨Instruction.addressWord_lead lead target, Instruction.addressWord_low lead target⟩
  have hself (target : Address) : target = Address.ofNat target.val :=
    Fin.ext (Nat.mod_eq_of_lt target.isLt).symm
  cases instruction
  case jump target =>
    cases hexecute
    obtain ⟨hlead, hlow⟩ := htarget 0x1 target hencode
    exact .jumped (.inl hlead) (hlow ▸ hself target)
  case call target =>
    obtain ⟨pushed, -, rfl⟩ := execute_call_ok.mp hexecute
    obtain ⟨hlead, hlow⟩ := htarget 0x2 target hencode
    exact .jumped (.inr hlead) (hlow ▸ hself target)
  case jumpByV0 base =>
    cases hexecute
    obtain ⟨hlead, hlow⟩ := htarget 0xB base hencode
    exact .jumpedByV0 hlead (by rw [hlow]; rfl)
  case returnToCaller => exact .returned (UInt16.toNat_inj.mp hencode.symm)
  case skipIfByte | skipUnlessByte | skipIfEqual | skipUnlessEqual | skipIfHeld | skipUnlessHeld =>
    cases hexecute
    exact .skipWhen ..
  case saveFlags x =>
    obtain ⟨saved, -, rfl⟩ := execute_saveFlags_ok.mp hexecute
    exact .advance rfl
  case restoreFlags x =>
    obtain ⟨registers, rfl⟩ := registers_of_restoreFlags hexecute
    exact .advance rfl
  case loadRegisters x =>
    obtain ⟨registers, rfl⟩ := registers_of_loadRegisters hexecute
    exact .advance rfl
  all_goals
    cases hexecute
    exact .advance rfl

/-- Where a step lets execution go on, if it carries out an instruction. -/
theorem moving_of_step (hwaiting : machine.isWaiting = false) (hstep : machine.step = .ok next) :
    machine.Moving machine.word next := by
  obtain ⟨instruction, hdecode, hexecute⟩ := execute_of_step hwaiting hstep
  exact moving_of_execute hdecode hexecute

/-- A machine starts where programs are loaded. -/
theorem counter_of_load {program : List UInt8} {seed initialFlags : UInt64}
    (hload : load program seed initialFlags = .ok machine) :
    machine.counter = Memory.programStart := by
  obtain ⟨memory, rfl⟩ := eq_of_load hload
  rfl

end Chip8.Machine
