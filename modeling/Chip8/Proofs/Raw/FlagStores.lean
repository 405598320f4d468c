import Chip8.Proofs.Machine.FlagTrace
import Chip8.Proofs.Raw.Events

/-!
# What flags hold in the course of a run

`FX75` stores the first registers in the flags of the same number, as many as X tells, and
nothing else stores there.  Stores of different lengths lie over one another, so each flag
is followed by itself: it holds what the last store to reach it has put there, and if there
was none, its byte of the number that the machine was loaded with.
-/

namespace Chip8.Raw

open FlagRegisters (registerOf byteOf)

/-! ## Words that move flags -/

/-- `FX75` with a flag among the first X + 1, of which there are eight. -/
def StoresIn (position : Fin 8) (word : UInt16) : Prop :=
  word.toNat / 0x1000 = 0xF ∧ word.toNat % 0x100 = 0x75 ∧
    position.val ≤ word.toNat / 0x100 % 0x10 ∧ word.toNat / 0x100 % 0x10 ≤ 7

instance (position : Fin 8) : DecidablePred (StoresIn position) :=
  fun _ => inferInstanceAs (Decidable (_ ∧ _ ∧ _ ∧ _))

/-- What a step does at a word `FX75` or `FX85`: it stores the first registers in flags and
keeps all registers, or takes the first registers from flags and keeps the others and the
flags, or fails and changes nothing, since there are eight flags only. -/
structure Event.MovesFlags (event : Event) (word : UInt16) : Prop where
  stores : word.toNat % 0x100 = 0x75 → word.toNat / 0x100 % 0x10 ≤ 7 →
    event.result = .ok () ∧ event.after.registers = event.before.registers
  restores : word.toNat % 0x100 = 0x85 → word.toNat / 0x100 % 0x10 ≤ 7 →
    event.result = .ok () ∧
      (∀ position : Fin 8, position.val ≤ word.toNat / 0x100 % 0x10 →
        event.after.registers.get (registerOf position)
          = event.before.flags.bytes.get position) ∧
      (∀ y : Register, word.toNat / 0x100 % 0x10 < y.val →
        event.after.registers.get y = event.before.registers.get y) ∧
      event.after.flags = event.before.flags
  fails : word.toNat % 0x100 = 0x75 ∨ word.toNat % 0x100 = 0x85 →
    7 < word.toNat / 0x100 % 0x10 →
    event.result = .error .flagOverflow ∧ event.after = event.before

namespace Machine

variable {machine next last : Machine} {call : Machine.Call} {calls : List Machine.Call}
  {result : Except Fault Unit} {events : List Event} {position : Fin 8}

/-! ## One call -/

/-- A step that succeeds stores in a flag what its word says. -/
theorem storedIn?_view (hfree : machine.keys.isWaiting = false) :
    machine.view.storedIn? position = if StoresIn position machine.view.word then
      some (machine.registers.get (registerOf position)) else none := by
  have hwaiting : machine.view.isWaiting = false := machine.isWaiting_view.trans hfree
  rw [Chip8.Machine.storedIn?, hwaiting, if_neg Bool.false_ne_true]
  by_cases hstores : StoresIn position machine.view.word
  · obtain ⟨hlead, hlow, hposition, hx⟩ := hstores
    rw [if_pos ⟨hlead, hlow, hposition, hx⟩, Instruction.decode?_transfer hlead, hlow]
    exact if_pos ⟨hposition, hx⟩
  · rw [if_neg hstores]
    cases hdecode : Instruction.decode? machine.view.word with
    | none => rfl
    | some instruction =>
        have hword := Instruction.encodeNat_of_decode? hdecode
        cases instruction
        case saveFlags x =>
          refine if_neg ?_
          rintro ⟨hposition, hx⟩
          have hdigit := Instruction.byteWord_x 0xF x (show 0x75 < 0x100 by decide)
          apply hstores
          rw [StoresIn, ← hword]
          refine ⟨Instruction.byteWord_lead 0xF x (by decide),
            Instruction.byteWord_low 0xF x (by decide), ?_, ?_⟩
          · exact hposition.trans_eq hdigit.symm
          · exact hdigit.trans_le hx
        all_goals rfl

/-- A step that carries out `FX75` stores the register of the same number in each flag that
it reaches. -/
theorem flag_of_stores (hmachine : machine.WellFormed)
    (hanswer : machine.answer call = .ok (result, next))
    (hstores : Event.Performs (StoresIn position) ⟨machine, call, result, next⟩) :
    next.flags.bytes.get position = machine.registers.get (registerOf position) := by
  obtain ⟨⟨rfl, hfree, rfl⟩, hword⟩ := Event.performs_iff.mp hstores
  have hflag := Chip8.Machine.flag_of_step (view_of_step hmachine hanswer) position
  rw [storedIn?_view hfree, if_pos hword] at hflag
  exact hflag

/-- Nothing else that is done to the machine changes the flag. -/
theorem flag_of_not_stores (hmachine : machine.WellFormed)
    (hreset : ∀ program seed initialFlags, call ≠ .reset program seed initialFlags)
    (hanswer : machine.answer call = .ok (result, next))
    (hidle : ¬ Event.Performs (StoresIn position) ⟨machine, call, result, next⟩) :
    next.flags.bytes.get position = machine.flags.bytes.get position := by
  cases call with
  | step =>
      cases result with
      | error fault => rw [eq_of_step_error hmachine hanswer]
      | ok done =>
          have hflag := Chip8.Machine.flag_of_step (view_of_step hmachine hanswer) position
          have hnone : machine.view.storedIn? position = none := by
            cases hwaiting : machine.keys.isWaiting with
            | true => exact if_pos (machine.isWaiting_view.trans hwaiting)
            | false =>
                rw [storedIn?_view hwaiting]
                apply if_neg
                intro hword
                exact hidle (performs_of_step hwaiting hword hanswer hanswer)
          rw [hnone] at hflag
          exact hflag
  | tick | acknowledgeScreen | acknowledgeFlags | resetDrawnBytes =>
      cases hanswer
      rfl
  | setKeys mask =>
      obtain ⟨rfl, registers, keys, rfl⟩ := kept_of_setKeys hanswer
      rfl
  | reset program seed initialFlags => exact absurd rfl (hreset program seed initialFlags)

/-! ## Steps that move flags -/

theorem step_saveFlags {x : Register} (hfree : machine.keys.isWaiting = false)
    (hdecode : Instruction.decode? machine.view.word = some (.saveFlags x)) (hx : x.val ≤ 7) :
    ∃ next, machine.step = .ok (.ok (), next) ∧ next.registers = machine.registers := by
  have hfits : (machine.view.registersUpTo x).length ≤ 8 := by
    rw [Chip8.Machine.length_registersUpTo]
    exact Nat.succ_le_succ hx
  have hexecute := machine.execute_saveFlags x
  rw [FlagRegisters.save, if_pos hfits] at hexecute
  exact ⟨_, step_of_execute hfree hdecode hexecute, rfl⟩

theorem step_restoreFlags {x : Register} (hmachine : machine.WellFormed)
    (hfree : machine.keys.isWaiting = false)
    (hdecode : Instruction.decode? machine.view.word = some (.restoreFlags x)) (hx : x.val ≤ 7) :
    ∃ next, machine.step = .ok (.ok (), next) ∧
      (∀ position : Fin 8, position.val ≤ x.val →
        next.registers.get (registerOf position) = machine.flags.bytes.get position) ∧
      (∀ y : Register, x < y → next.registers.get y = machine.registers.get y) ∧
      next.flags = machine.flags := by
  have hfits : x.val + 1 ≤ 8 := Nat.succ_le_succ hx
  have hexecute := machine.execute_restoreFlags x
  rw [FlagRegisters.restore, if_pos hfits] at hexecute
  have hstep := step_of_execute hfree hdecode hexecute
  -- the registers are those of the step that the stored one stands for
  obtain ⟨typed, htyped, hvalues, hothers⟩ := Chip8.Machine.step_restoreFlags
    ⟨machine.isWaiting_view.trans hfree, _, hdecode, rfl⟩ hx
  have hview := view_of_step hmachine hstep
  rw [htyped] at hview
  cases hview
  exact ⟨_, hstep, hvalues, hothers, rfl⟩

/-- A step at a word `FX75` or `FX85` does what it should. -/
theorem movesFlags_of_step (hmachine : machine.WellFormed)
    (hfree : machine.keys.isWaiting = false) (hlead : machine.view.word.toNat / 0x1000 = 0xF)
    (hstep : machine.step = .ok (result, next)) :
    Event.MovesFlags ⟨machine, .step, result, next⟩ machine.view.word where
  stores := by
    intro hlow hx
    have hdecode := Instruction.decode?_transfer hlead
    rw [hlow] at hdecode
    obtain ⟨other, hother, hregisters⟩ := step_saveFlags hfree hdecode hx
    rw [hstep] at hother
    cases hother
    exact ⟨rfl, hregisters⟩
  restores := by
    intro hlow hx
    have hdecode := Instruction.decode?_transfer hlead
    rw [hlow] at hdecode
    obtain ⟨other, hother, hmoves⟩ := step_restoreFlags hmachine hfree hdecode hx
    rw [hstep] at hother
    cases hother
    exact ⟨rfl, hmoves⟩
  fails := by
    intro hlow hx
    have hfails := step_of_obstacle hmachine hfree (.flagOverflow hlead hlow hx)
    rw [hstep] at hfails
    cases hfails
    exact ⟨rfl, rfl⟩

/-! ## Several calls -/

/-- A flag in which nothing is stored stays what it is. -/
theorem flag_of_run (hmachine : machine.WellFormed) (hcalls : NoReset calls)
    (hrun : machine.run calls = .ok (events, last))
    (hidle : ∀ event ∈ events, ¬ event.Performs (StoresIn position)) :
    last.flags.bytes.get position = machine.flags.bytes.get position := by
  refine kept_of_run (fun machine => machine.flags.bytes.get position) hrun ?_
  intro event hevent
  obtain ⟨hbefore, hanswer⟩ := answer_of_mem hmachine hrun hevent
  exact flag_of_not_stores hbefore (hcalls _ (call_mem_of_run hrun hevent)) hanswer
    (hidle event hevent)

/-- A flag holds what was last stored in it. -/
theorem flag_of_last (hmachine : machine.WellFormed) (hcalls : NoReset calls)
    (hrun : machine.run calls = .ok (events, last)) {event : Event}
    (hlast : Event.IsLast (Event.Performs (StoresIn position)) events event) :
    last.flags.bytes.get position = event.before.registers.get (registerOf position) := by
  obtain ⟨earlier, later, rfl, hstores, hidle⟩ := hlast
  obtain ⟨past, future, rfl, hpast, hanswer, hfuture⟩ := run_split hrun
  have hbefore := wellFormed_of_run hmachine hpast
  obtain ⟨-, hafter⟩ := hcalls.of_append
  have hwell := (stacks_of_answer hbefore (hafter _ List.mem_cons_self) hanswer).1
  rw [flag_of_run hwell hafter.tail hfuture hidle]
  exact flag_of_stores hbefore hanswer hstores

/-- In the course of any calls but a reset, each flag holds the value that the register of
its number had when the last `FX75` to reach it was carried out, or its byte of the number
that was loaded.  `FX85` takes the first registers back and changes nothing else, and both
fail without a trace where there are more registers than flags. -/
theorem flags_hold_last_stores {program : List UInt8} {seed initialFlags : UInt64}
    {fresh : Machine} (hload : load program seed initialFlags = .ok (.ok fresh))
    (hcalls : NoReset calls) :
    ∃ events last, fresh.run calls = .ok (events, last) ∧
      (∀ position : Fin 8,
        byteOf last.flags.packed position = last.flags.bytes.get position ∧
        (∀ event, Event.IsLast (Event.Performs (StoresIn position)) events event →
          last.flags.bytes.get position = event.before.registers.get (registerOf position)) ∧
        ((∀ event ∈ events, ¬ event.Performs (StoresIn position)) →
          last.flags.bytes.get position = byteOf initialFlags position)) ∧
      ∀ event ∈ events, event.call = .step → event.before.keys.isWaiting = false →
        ∀ word, event.before.word = .ok word → word.toNat / 0x1000 = 0xF →
          event.MovesFlags word := by
  obtain ⟨hfresh, htyped⟩ := wellFormed_of_load hload
  obtain ⟨events, last, hrun, -⟩ := exists_run hfresh calls
  refine ⟨events, last, hrun, ?_, ?_⟩
  · intro position
    refine ⟨FlagRegisters.byteOf_packed last.flags position, ?_, ?_⟩
    · intro event hlast
      exact flag_of_last hfresh hcalls hrun hlast
    · intro hidle
      have hflags : fresh.flags = .ofPacked initialFlags :=
        (Chip8.Machine.unmarked_of_load htyped).2
      rw [flag_of_run hfresh hcalls hrun hidle, hflags]
      exact Vector.getElem_ofFn position.isLt
  · intro event hevent hstep hfree word hword hlead
    obtain ⟨hbefore, hanswer⟩ := answer_of_mem hfresh hrun hevent
    obtain ⟨before, call, result, after⟩ := event
    obtain rfl : call = .step := hstep
    obtain rfl : before.view.word = word := view_word hword
    exact movesFlags_of_step hbefore hfree hlead hanswer

/-- V0 is 5 when it is stored, and stays in its flag while it is set to 9; the flag next to
it keeps what was loaded. -/
theorem flags_hold_last_stores_five : ∃ (fresh last : Machine) (events : List Event),
    load [0x60, 0x05, 0xF0, 0x75, 0x60, 0x09] 0 0x0201 = .ok (.ok fresh) ∧
      fresh.run [.step, .step, .step] = .ok (events, last) ∧
      last.flags.bytes.get 0 = 5 ∧ last.flags.bytes.get 1 = 2 := by
  have hsteps : ∃ fresh, load [0x60, 0x05, 0xF0, 0x75, 0x60, 0x09] 0 0x0201 = .ok (.ok fresh) ∧
      ∃ put five, fresh.answer .step = .ok (put, five) ∧ five.registers.get 0 = 5 ∧
      ∃ stored kept, five.answer .step = .ok (stored, kept) ∧
        Event.Performs (StoresIn 0) ⟨five, .step, stored, kept⟩ ∧
      ∃ changed last, kept.answer .step = .ok (changed, last) ∧
        ¬ Event.Performs (StoresIn 0) ⟨kept, .step, changed, last⟩ ∧
        ∀ event ∈ [⟨fresh, .step, put, five⟩, ⟨five, .step, stored, kept⟩,
          ⟨kept, .step, changed, last⟩], ¬ Event.Performs (StoresIn 1) event := by
    decide +kernel
  obtain ⟨fresh, hload, put, five, hput, hfive, stored, kept, hstored, hstores, changed, last,
    hchanged, hidle, hnone⟩ := hsteps
  have hrun : fresh.run [.step, .step, .step] = .ok (_, last) :=
    run_cons hput (run_cons hstored (run_cons hchanged rfl))
  obtain ⟨_, _, hsame, hflags, -⟩ := flags_hold_last_stores hload
    (show NoReset [.step, .step, .step] by simp [NoReset])
  cases hrun.symm.trans hsame
  refine ⟨fresh, last, _, hload, hrun, ?_, (hflags 1).2.2 hnone⟩
  rw [← hfive]
  exact (hflags 0).2.1 _ ⟨[_], [_], rfl, hstores, by simpa using hidle⟩

end Machine

end Chip8.Raw
