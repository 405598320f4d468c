import Chip8.Proofs.Machine.FlagTrace
import Chip8.Proofs.Raw.Locality

/-!
# Registers come back from memory

`FX55` stores the first registers at the index, and `FX65` loads registers from there.
Nothing but `FX33` and `FX55` stores anything at all, so a register that was stored comes
back as it was, whatever happens in between, as long as its own cell is not overwritten.
That the block may run past the last cell, and may lie on the program itself, makes no
difference: a block of sixteen cells at most has a cell of its own for each register.
-/

namespace Chip8

namespace Machine

variable {machine : Machine}

theorem get_registers (machine : Machine) (x : Register) :
    machine.registers.get x = machine.register x := rfl

/-- Each of the first registers is at the place of its number. -/
theorem getElem?_registersUpTo {x y : Register} (hyx : y ≤ x) :
    (machine.registersUpTo x)[y.val]? = some (machine.register y) := by
  have hfirst : y.val < x.val + 1 := Nat.lt_succ_of_le hyx
  unfold registersUpTo
  rw [List.getElem?_take_of_lt hfirst, List.getElem?_eq_getElem (by simp), Vector.getElem_toList]
  rfl

end Machine

namespace Raw

/-- `FXNN` with this X and this byte. -/
def TransfersUpTo (byte : Nat) (x : Register) (word : UInt16) : Prop :=
  word.toNat / 0x1000 = 0xF ∧ word.toNat % 0x100 = byte ∧ word.toNat / 0x100 % 0x10 = x.val

/-- `FX55` with this X. -/
abbrev StoresUpTo (x : Register) : UInt16 → Prop := TransfersUpTo 0x55 x

/-- `FX65` with this X. -/
abbrev LoadsUpTo (x : Register) : UInt16 → Prop := TransfersUpTo 0x65 x

instance (byte : Nat) (x : Register) : DecidablePred (TransfersUpTo byte x) :=
  fun _ => inferInstanceAs (Decidable (_ ∧ _ ∧ _))

theorem TransfersUpTo.decode?_eq {byte : Nat} {x : Register} {word : UInt16}
    (htransfers : TransfersUpTo byte x word) :
    Instruction.decode? word = Instruction.ofTransferByte? x byte := by
  obtain ⟨hlead, hlow, hx⟩ := htransfers
  have hdigit : lastDigit (word.toNat / 0x100) = x := Fin.ext hx
  rw [Instruction.decode?_transfer hlead, hlow, hdigit]

namespace Event

/-- The event is a step that overwrites a cell. -/
def Overwrites (event : Event) (address : Address) : Prop :=
  event.call = .step ∧ event.before.Overwrites address

/-- The event gives the registers up to VY the values that they had on an earlier machine,
leaves the other registers alone, and the index is that of the earlier machine. -/
structure Restores (event : Event) (y : Register) (earlier : Machine) : Prop where
  restored : ∀ z ≤ y, event.after.registers.get z = earlier.registers.get z
  others : ∀ z, y < z → event.after.registers.get z = event.before.registers.get z
  index : event.after.index = earlier.index

end Event

namespace Machine

variable {machine next last : Machine} {call : Machine.Call} {calls : List Machine.Call}
  {result : Except Fault Unit} {events : List Event} {x y : Register} {address : Address}

/-! ## What becomes of memory -/

/-- An instruction does nothing to memory but store its bytes at the index. -/
theorem memory_of_execute {typed after : Chip8.Machine} {instruction : Chip8.Instruction}
    (hexecute : typed.execute instruction = .ok after) :
    after.memory = typed.memory.writeBlock typed.index (written typed instruction) := by
  cases instruction
  case returnToCaller =>
    obtain ⟨popped, -, rfl⟩ := Chip8.Machine.execute_returnToCaller_ok.mp hexecute
    rfl
  case call =>
    obtain ⟨pushed, -, rfl⟩ := Chip8.Machine.execute_call_ok.mp hexecute
    rfl
  case saveFlags =>
    obtain ⟨saved, -, rfl⟩ := Chip8.Machine.execute_saveFlags_ok.mp hexecute
    rfl
  case restoreFlags =>
    obtain ⟨registers, rfl⟩ := Chip8.Machine.registers_of_restoreFlags hexecute
    rfl
  case loadRegisters =>
    obtain ⟨registers, rfl⟩ := Chip8.Machine.registers_of_loadRegisters hexecute
    rfl
  all_goals
    cases hexecute
    rfl

/-- A step that does not overwrite a cell leaves it alone. -/
theorem read_of_step (hmachine : machine.WellFormed)
    (hstep : machine.step = .ok (.ok (), next)) (hspared : ¬ machine.Overwrites address) :
    next.memory.read address = machine.memory.read address := by
  rcases Chip8.Machine.step_cases (view_of_step hmachine hstep) with
    ⟨-, hsame⟩ | ⟨hfree, instruction, hdecode, hexecute⟩
  · exact congrArg (fun typed => typed.memory.read address) hsame.symm
  · rw [isWaiting_view] at hfree
    have hlength : (written machine.view instruction).length
        = cellsWritten machine.view.word := by
      rw [cellsWritten_eq machine.view, hdecode]
      rfl
    have houtside : ¬ machine.view.index.InBlock
        (written machine.view instruction).length address := by
      intro hinside
      rw [hlength] at hinside
      exact hspared (overwrites_iff.mpr ⟨hfree, hinside⟩)
    calc next.memory.read address
        = (machine.memory.writeBlock machine.view.index
            (written machine.view instruction)).read address :=
          congrArg (Memory.read · address) (memory_of_execute hexecute)
      _ = machine.memory.read address := by
          refine Memory.read_writeBlock_of_not_inBlock _ ?_ houtside
          rw [hlength]
          exact cellsWritten_le _

/-- Neither does anything else that is done to the machine, unless it is reset. -/
theorem read_of_answer (hmachine : machine.WellFormed)
    (hreset : ∀ program seed initialFlags, call ≠ .reset program seed initialFlags)
    (hanswer : machine.answer call = .ok (result, next))
    (hspared : ¬ Event.Overwrites ⟨machine, call, result, next⟩ address) :
    next.memory.read address = machine.memory.read address := by
  cases call with
  | step =>
      cases result with
      | error fault => rw [eq_of_step_error hmachine hanswer]
      | ok done =>
          exact read_of_step hmachine hanswer fun hoverwrites => hspared ⟨rfl, hoverwrites⟩
  | tick | acknowledgeScreen | acknowledgeFlags | resetDrawnBytes =>
      cases hanswer
      rfl
  | setKeys mask =>
      obtain ⟨rfl, registers, keys, rfl⟩ := kept_of_setKeys hanswer
      rfl
  | reset program seed initialFlags => exact absurd rfl (hreset program seed initialFlags)

/-- A cell that is not overwritten in the course of some calls holds what it held. -/
theorem read_of_run (hmachine : machine.WellFormed) (hcalls : NoReset calls)
    (hrun : machine.run calls = .ok (events, last))
    (hspared : ∀ event ∈ events, ¬ event.Overwrites address) :
    last.memory.read address = machine.memory.read address := by
  refine kept_of_run (fun machine => machine.memory.read address) hrun ?_
  intro event hevent
  obtain ⟨hbefore, hanswer⟩ := answer_of_mem hmachine hrun hevent
  exact read_of_answer hbefore (hcalls _ (call_mem_of_run hrun hevent)) hanswer
    (hspared event hevent)

/-! ## Registers that are stored and loaded -/

/-- `FX55` always succeeds, and puts each of its registers into a cell of its own. -/
theorem read_of_storesUpTo (hfree : machine.keys.isWaiting = false)
    (hstores : StoresUpTo x machine.view.word) (hstep : machine.step = .ok (result, next)) :
    result = .ok () ∧ ∀ y ≤ x,
      next.memory.read ((addressOf machine.index).offset y.val) = machine.registers.get y := by
  have hstored := step_of_execute hfree hstores.decode?_eq (execute_storeRegisters machine x)
  rw [hstep] at hstored
  cases hstored
  refine ⟨rfl, ?_⟩
  intro y hyx
  have hlength : (machine.view.registersUpTo x).length ≤ 4096 := by
    rw [Chip8.Machine.length_registersUpTo]
    omega
  show (machine.memory.writeBlock _ _).read _ = _
  rw [Memory.read_writeBlock _ _ _ hlength, Address.distance_offset _ (by omega),
    List.getD_eq_getElem?_getD, Chip8.Machine.getElem?_registersUpTo hyx]
  rfl

/-- `FX65` always succeeds, and takes each of its registers from a cell of its own. -/
theorem registers_of_loadsUpTo (hfree : machine.keys.isWaiting = false)
    (hloads : LoadsUpTo x machine.view.word) (hstep : machine.step = .ok (result, next)) :
    result = .ok () ∧ next.index = machine.index ∧
      (∀ y ≤ x, next.registers.get y
        = machine.memory.read ((addressOf machine.index).offset y.val)) ∧
      ∀ y, x < y → next.registers.get y = machine.registers.get y := by
  have hloaded := step_of_execute hfree hloads.decode?_eq (execute_loadRegisters machine x)
  rw [hstep] at hloaded
  cases hloaded
  have hregister (y : Register) : (machine.view.setFirstRegisters
      (machine.memory.readBlock (addressOf machine.index) (x.val + 1))).registers.get y
        = (machine.memory.readBlock (addressOf machine.index) (x.val + 1)).getD y.val
            (machine.registers.get y) :=
    (Chip8.Machine.get_registers _ y).trans
      (Chip8.Machine.register_setFirstRegisters machine.view _ y)
  refine ⟨rfl, rfl, ?_, ?_⟩
  · intro y hyx
    rw [hregister, Memory.getD_readBlock _ _ (Nat.lt_succ_of_le hyx)]
  · intro y hxy
    rw [hregister, List.getD_eq_default]
    rw [Memory.length_readBlock]
    exact hxy

/-- What is stored by one event comes back with another one, if the cells in question are
not overwritten in between. -/
theorem restores_of_run {earlier between later : List Event} {store load : Event}
    (hmachine : machine.WellFormed) (hcalls : NoReset calls)
    (hrun : machine.run calls = .ok (earlier ++ store :: between ++ load :: later, last))
    (hyx : y ≤ x) (hstore : store.Performs (StoresUpTo x)) (hload : load.Performs (LoadsUpTo y))
    (hindex : load.before.index = store.before.index)
    (hspared : ∀ event ∈ between, ∀ z ≤ y,
      ¬ event.Overwrites ((addressOf store.before.index).offset z.val)) :
    load.Restores y store.before := by
  rw [List.append_assoc, List.cons_append] at hrun
  obtain ⟨past, future, rfl, hpast, hstored, hfuture⟩ := run_split hrun
  obtain ⟨middle, rest, rfl, hmiddle, hloaded, -⟩ := run_split hfuture
  obtain ⟨-, hfromStore⟩ := hcalls.of_append
  obtain ⟨hbetween, -⟩ := hfromStore.tail.of_append
  have hbefore := wellFormed_of_run hmachine hpast
  have hafter := (stacks_of_answer hbefore (hfromStore _ List.mem_cons_self) hstored).1
  obtain ⟨⟨hstoreCall, hstoreFree, -⟩, hstoreWord⟩ := Event.performs_iff.mp hstore
  obtain ⟨⟨hloadCall, hloadFree, -⟩, hloadWord⟩ := Event.performs_iff.mp hload
  rw [hstoreCall] at hstored
  rw [hloadCall] at hloaded
  obtain ⟨-, hcells⟩ := read_of_storesUpTo hstoreFree hstoreWord hstored
  obtain ⟨-, hsame, hregisters, hothers⟩ := registers_of_loadsUpTo hloadFree hloadWord hloaded
  refine ⟨?_, hothers, hsame.trans hindex⟩
  intro z hzy
  calc load.after.registers.get z
      = load.before.memory.read ((addressOf load.before.index).offset z.val) := hregisters z hzy
    _ = load.before.memory.read ((addressOf store.before.index).offset z.val) := by rw [hindex]
    _ = store.after.memory.read ((addressOf store.before.index).offset z.val) :=
        read_of_run hafter hbetween hmiddle fun event hevent => hspared event hevent z hzy
    _ = store.before.registers.get z := hcells z (hzy.trans hyx)

/-- Registers that are stored come back.  If `FX55` is carried out in the course of any
calls but a reset, and later `FX65` with the same index and no larger X, then the loaded
registers have the values that they had when they were stored, unless a step in between has
overwritten one of their cells; the other registers and the index stay.  Both instructions
are carried out whenever a machine that does not wait is stepped at them. -/
theorem stored_registers_come_back (hreachable : machine.Reachable) (hcalls : NoReset calls) :
    ∃ events last, machine.run calls = .ok (events, last) ∧
      (∀ event ∈ events, event.call = .step → event.before.keys.isWaiting = false →
        ∀ word x, event.before.word = .ok word → StoresUpTo x word ∨ LoadsUpTo x word →
          event.result = .ok ()) ∧
      ∀ earlier store between load later,
        events = earlier ++ store :: between ++ load :: later →
        ∀ x y, y ≤ x → store.Performs (StoresUpTo x) → load.Performs (LoadsUpTo y) →
          load.before.index = store.before.index →
          (∀ event ∈ between, ∀ z ≤ y,
            ¬ event.Overwrites ((addressOf store.before.index).offset z.val)) →
          load.Restores y store.before := by
  have hmachine := hreachable.wellFormed
  obtain ⟨events, last, hrun, -⟩ := exists_run hmachine calls
  refine ⟨events, last, hrun, ?_, ?_⟩
  · intro event hevent hstep hfree word x hword hkind
    obtain ⟨-, hanswer⟩ := answer_of_mem hmachine hrun hevent
    rw [hstep] at hanswer
    obtain rfl : event.before.view.word = word := view_word hword
    rcases hkind with hstores | hloads
    · exact (read_of_storesUpTo hfree hstores hanswer).1
    · exact (registers_of_loadsUpTo hfree hloads hanswer).1
  · rintro earlier store between load later rfl x y hyx hstore hload hindex hspared
    exact restores_of_run hmachine hcalls hrun hyx hstore hload hindex hspared

/-- V0 and V1 are stored in the last cell and the first one, and come back after V0 has been
changed. -/
theorem stored_registers_come_back_wrapped : ∃ (machine last : Machine) (events : List Event),
    machine.Reachable ∧ machine.index = 0x0FFF ∧
      machine.run [.step, .step, .step] = .ok (events, last) ∧
      last.registers.get Register.v0 = 5 ∧ last.registers.get (lastDigit 1) = 7 := by
  have hsteps : ∃ fresh,
      load [0x60, 0x05, 0x61, 0x07, 0xAF, 0xFF, 0xF1, 0x55, 0x60, 0x09, 0xF1, 0x65] 0 0
        = .ok (.ok fresh) ∧
      ∃ machine, fresh.afterAll [.step, .step, .step] = .ok machine ∧
        machine.index = 0x0FFF ∧ machine.registers.get Register.v0 = 5 ∧
        machine.registers.get (lastDigit 1) = 7 ∧
      ∃ first stored, machine.answer .step = .ok (first, stored) ∧
        Event.Performs (StoresUpTo (lastDigit 1)) ⟨machine, .step, first, stored⟩ ∧
        cellsWritten stored.view.word = 0 ∧
      ∃ second changed, stored.answer .step = .ok (second, changed) ∧
        changed.index = machine.index ∧
      ∃ third last, changed.answer .step = .ok (third, last) ∧
        Event.Performs (LoadsUpTo (lastDigit 1)) ⟨changed, .step, third, last⟩ := by
    decide +kernel
  obtain ⟨fresh, hload, machine, hmachine, hindex, hfive, hseven, first, stored, hfirst, hstores,
    hspares, second, changed, hsecond, hsame, third, last, hthird, hloads⟩ := hsteps
  have hreachable : machine.Reachable := ⟨_, 0, 0, _, fresh, hload, hmachine⟩
  have hrun : machine.run [.step, .step, .step] = .ok (_, last) :=
    run_cons hfirst (run_cons hsecond (run_cons hthird rfl))
  obtain ⟨_, _, hagain, -, hback⟩ := stored_registers_come_back hreachable
    (show NoReset [.step, .step, .step] by simp [NoReset])
  cases hrun.symm.trans hagain
  have hrestores := hback [] _ [⟨stored, .step, second, changed⟩] _ [] rfl (lastDigit 1)
    (lastDigit 1) le_rfl hstores hloads hsame (by
      intro event hevent z hz
      rw [List.mem_singleton] at hevent
      rw [hevent]
      rintro ⟨-, hoverwrites⟩
      exact not_overwrites (fun _ => hspares) _ hoverwrites)
  refine ⟨machine, last, _, hreachable, hindex, hrun, ?_, ?_⟩
  · exact (hrestores.restored Register.v0 (by decide)).trans hfive
  · exact (hrestores.restored (lastDigit 1) le_rfl).trans hseven

end Machine

end Raw

end Chip8
