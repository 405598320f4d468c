import Chip8.Proofs.Abstract.Abstraction
import Chip8.Proofs.Raw.Safety

/-!
# The machine follows the table

A step of the machine is a step of the abstract machine: it fails with the same
fault, or leads to a machine whose abstraction is the next abstract machine.  With
the stored machine doing what the machine does, the same holds for stored
machines, with all their words, arrays and masks.
-/

namespace Chip8

namespace Machine

variable (machine : Machine)

@[simp] theorem abstraction_register_val (x : Register) :
    machine.abstraction.register (x.val : ZMod 16) = machine.register x :=
  machine.abstraction_register x

@[simp] theorem abstraction_withIndex (address : Address) :
    { machine with index := address }.abstraction
      = { machine.abstraction with index := residue address } := rfl

/-! ## Rows that keep things in another way -/

theorem getD_registersUpTo {x : Register} {place : ℕ} (hplace : place ≤ x.val) (other : UInt8) :
    (machine.registersUpTo x).getD place other = machine.abstraction.register place := by
  have hmod : place % 16 = place := Nat.mod_eq_of_lt (by omega)
  have hlength := machine.length_registersUpTo x
  rw [List.getD_eq_getElem _ _ (by omega)]
  simp [registersUpTo, abstraction, register, hmod]

theorem getD_flags {place count : ℕ} (hplace : place < count) (hcount : count ≤ 8)
    (other : UInt8) :
    (machine.flags.bytes.toList.take count).getD place other
      = machine.abstraction.flags (Fin.ofNat 8 place) := by
  have hplace' : place < 8 := by omega
  have hflag : Fin.ofNat 8 place = ⟨place, hplace'⟩ := Fin.ext (Nat.mod_eq_of_lt hplace')
  rw [List.getD_eq_getElem _ _ (by simp; omega), hflag]
  simp only [List.getElem_take, Vector.getElem_toList]
  rfl

/-- The three digits by their distances from the first. -/
theorem getD_decimalDigits (byte : UInt8) : ∀ place < (decimalDigits byte).length, ∀ other,
    (decimalDigits byte).getD place other = match place with
      | 0 => byte / 100
      | 1 => byte / 10 % 10
      | _ => byte % 10 := by
  intro place hplace other
  have hthree : place < 3 := hplace
  have hcases : place = 0 ∨ place = 1 ∨ place = 2 := by omega
  rcases hcases with rfl | rfl | rfl
  · rfl
  · rfl
  · rfl

section Rows

variable (low address : ℕ)

theorem row_clearScreen :
    machine.abstraction.row 0x0 0x0 0xE 0x0 low address
      = (machine.execute .clearScreen).map abstraction := by
  have hdark : (fun column row => machine.screen.clear.isLit (.ofResidues column row))
      = fun (_ : ZMod 64) (_ : ZMod 32) => false := by
    funext column row
    simp [Screen.isLit, Screen.clear]
  simp only [Abstract.Machine.row, execute, Except.map, abstraction_advance]
  rw [← hdark]
  rfl

theorem row_returnToCaller :
    machine.abstraction.row 0x0 0x0 0xE 0xE low address
      = (machine.execute .returnToCaller).map abstraction := by
  simp only [Abstract.Machine.row, execute]
  cases hpop : machine.stack.pop with
  | error fault =>
      obtain ⟨rfl, hdepth⟩ := CallStack.pop_error_iff.mp hpop
      have hstack : machine.abstraction.stack = ⟨[], by decide⟩ := by
        apply Subtype.ext
        apply List.eq_nil_of_length_eq_zero
        exact machine.stack.length_residues.trans hdepth
      rw [hstack]
      rfl
  | ok popped =>
      obtain ⟨target, stack⟩ := popped
      have hlist : machine.abstraction.stack.val = residue target :: stack.residues :=
        CallStack.residues_of_pop hpop
      have hle := machine.abstraction.stack.property
      rw [hlist] at hle
      have hstack : machine.abstraction.stack
          = ⟨residue target :: stack.residues, hle⟩ := Subtype.ext hlist
      rw [hstack]
      rfl

theorem row_call (x y n : ℕ) (target : Address) :
    machine.abstraction.row 0x2 x y n low target.val
      = (machine.execute (.call target)).map abstraction := by
  have hlength : machine.abstraction.stack.val.length = machine.stack.depth :=
    machine.stack.length_residues
  simp only [Abstract.Machine.row, execute]
  by_cases hfree : machine.stack.depth < 16
  · rw [dif_pos (hlength ▸ hfree)]
    cases hpush : machine.stack.push (machine.counter.offset 2) with
    | error fault => simp [CallStack.push, hfree] at hpush
    | ok stack =>
        have hlist : stack.residues
            = (machine.abstraction.counter + 2) :: machine.abstraction.stack.val := by
          rw [CallStack.residues_of_push hpush, Address.residue_offset]
          rfl
        have hstack : ({ machine with stack := stack }.abstraction).stack
            = ⟨(machine.abstraction.counter + 2) :: machine.abstraction.stack.val,
                hlength ▸ hfree⟩ := Subtype.ext hlist
        simp only [Except.map, abstraction_goTo]
        rw [← hstack]
        rfl
  · rw [dif_neg (hlength ▸ hfree)]
    simp [CallStack.push, hfree, Except.map]

theorem row_jumpByV0 (x y n : ℕ) (base : Address) :
    machine.abstraction.row 0xB x y n low base.val
      = (machine.execute (.jumpByV0 base)).map abstraction := by
  have hv0 : machine.abstraction.register 0 = machine.register .v0 := rfl
  simp only [Abstract.Machine.row, execute, Except.map, abstraction_goTo, Address.residue_offset,
    hv0]
  rfl

theorem row_addToIndex (x : Register) :
    machine.abstraction.row 0xF x.val 0x1 0xE low address
      = (machine.execute (.addToIndex x)).map abstraction := by
  have hindex := Address.residue_offset machine.index (machine.register x).toNat
  simp only [Abstract.Machine.row, execute, Except.map, abstraction_advance, abstraction_withIndex,
    hindex, abstraction_register_val]
  rfl

theorem row_locateGlyph (x : Register) :
    machine.abstraction.row 0xF x.val 0x2 0x9 low address
      = (machine.execute (.locateGlyph x)).map abstraction := by
  have hglyph : residue (Memory.glyphAddress (machine.register x))
      = 0x50 + 5 * (((machine.register x).toNat % 16 : ℕ) : ZMod 4096) := by
    rw [Memory.glyphAddress, Address.residue_offset, Memory.fontStart, Address.residue_ofNat,
      Nat.cast_mul]
    rfl
  simp only [Abstract.Machine.row, execute, Except.map, abstraction_advance, abstraction_withIndex,
    hglyph, abstraction_register_val]

theorem row_storeDigits (x : Register) :
    machine.abstraction.row 0xF x.val 0x3 0x3 low address
      = (machine.execute (.storeDigits x)).map abstraction := by
  have hlength : (decimalDigits (machine.register x)).length ≤ 16 := Nat.le_of_ble_eq_true rfl
  have hstore := machine.abstraction_writeBlock _ _ hlength
    (getD_decimalDigits (machine.register x))
  simp only [Abstract.Machine.row, execute, Except.map, abstraction_advance, hstore,
    abstraction_register_val]
  rfl

theorem row_storeRegisters (x : Register) :
    machine.abstraction.row 0xF x.val 0x5 0x5 low address
      = (machine.execute (.storeRegisters x)).map abstraction := by
  have hlength := machine.length_registersUpTo x
  have hstore := machine.abstraction_writeBlock (machine.registersUpTo x)
    (fun distance => machine.abstraction.register distance) (by omega) (by
      intro place hplace other
      exact machine.getD_registersUpTo (by omega) other)
  rw [hlength] at hstore
  simp only [Abstract.Machine.row, execute, Except.map, abstraction_advance, hstore]

theorem row_loadRegisters (x : Register) :
    machine.abstraction.row 0xF x.val 0x6 0x5 low address
      = (machine.execute (.loadRegisters x)).map abstraction := by
  have hload := machine.abstraction_setFirstRegisters
    (machine.memory.readBlock machine.index (x.val + 1)) x
    (fun distance => machine.abstraction.memory (machine.abstraction.index + distance))
    (Memory.length_readBlock ..) (by
      intro place hplace other
      rw [Memory.getD_readBlock _ _ (Nat.lt_succ_of_le hplace)]
      exact congrArg machine.memory.read (Address.ofResidue_add machine.index place).symm)
  simp only [Abstract.Machine.row, execute, Except.map, abstraction_advance, hload]
  rfl

theorem row_saveFlags (x : Register) :
    machine.abstraction.row 0xF x.val 0x7 0x5 low address
      = (machine.execute (.saveFlags x)).map abstraction := by
  have hlength := machine.length_registersUpTo x
  by_cases hfits : x.val ≤ 7
  · have hsaved : (fun place : Fin 8 => (Vector.ofFn fun position : Fin 8 =>
        (machine.registersUpTo x).getD position.val machine.flags.bytes[position])[place])
        = fun place => if place.val ≤ x.val then machine.abstraction.register place.val
            else machine.abstraction.flags place := by
      funext place
      rw [Fin.getElem_fin, Vector.getElem_ofFn]
      by_cases hfirst : place.val ≤ x.val
      · rw [if_pos hfirst]
        exact machine.getD_registersUpTo hfirst _
      · rw [if_neg hfirst, List.getD_eq_default _ _ (by simp only; omega)]
        rfl
    simp only [Abstract.Machine.row, execute, FlagRegisters.save, hlength, if_pos hfits,
      if_pos (Nat.succ_le_succ hfits), Except.map, abstraction_advance]
    rw [← hsaved]
    rfl
  · simp only [Abstract.Machine.row, execute, FlagRegisters.save, hlength, if_neg hfits,
      if_neg (fun h => hfits (Nat.le_of_succ_le_succ h)), Except.map]

theorem row_restoreFlags (x : Register) :
    machine.abstraction.row 0xF x.val 0x8 0x5 low address
      = (machine.execute (.restoreFlags x)).map abstraction := by
  by_cases hfits : x.val ≤ 7
  · have hlength : (machine.flags.bytes.toList.take (x.val + 1)).length = x.val + 1 := by
      rw [List.length_take, Vector.length_toList]
      omega
    have hrestore := machine.abstraction_setFirstRegisters
      (machine.flags.bytes.toList.take (x.val + 1)) x
      (fun place => machine.abstraction.flags (Fin.ofNat 8 place)) hlength (by
        intro place hplace other
        exact machine.getD_flags (Nat.lt_succ_of_le hplace) (Nat.succ_le_succ hfits) other)
    simp only [Abstract.Machine.row, execute, FlagRegisters.restore, if_pos hfits,
      if_pos (Nat.succ_le_succ hfits), Except.map, abstraction_advance, hrestore]
    rfl
  · simp only [Abstract.Machine.row, execute, FlagRegisters.restore, if_neg hfits,
      if_neg (fun h => hfits (Nat.le_of_succ_le_succ h)), Except.map]

end Rows

/-! ## All rows -/

theorem half_eq (byte : UInt8) : byte / (2 : UInt8) = byte >>> 1 := by
  apply UInt8.toNat_inj.mp
  rw [UInt8.toNat_div, UInt8.toNat_shiftRight]
  exact (Nat.shiftRight_eq_div_pow byte.toNat 1).symm

theorem double_eq (byte : UInt8) : byte + byte = byte <<< 1 := by
  apply UInt8.toNat_inj.mp
  rw [UInt8.toNat_add, UInt8.toNat_shiftLeft]
  show (byte.toNat + byte.toNat) % 256 = byte.toNat <<< 1 % 256
  rw [Nat.shiftLeft_eq]
  omega

/-- A byte loses its highest bit when it is doubled if it is at least 128. -/
theorem testBit_seven (byte : UInt8) : byte.toNat.testBit 7 = decide (128 ≤ byte.toNat) := by
  have hbyte : byte.toNat < 256 := byte.toNat_lt
  rw [Nat.testBit_eq_decide_div_mod_eq, decide_eq_decide]
  omega

/-- The row of an instruction is what the machine does. -/
theorem perform_encodeNat (instruction : Instruction) :
    machine.abstraction.perform instruction.encodeNat
      = (machine.execute instruction).map abstraction := by
  have hbyte : ∀ byte : UInt8, byte.toNat < 0x100 := UInt8.toNat_lt
  have hresidue : ∀ {size : ℕ} (number : Fin size), (number.val : ZMod size) = residue number :=
    fun _ => rfl
  cases instruction
  -- the digits of the word are those of the pattern
  all_goals
    simp only [Instruction.encodeNat, Abstract.Machine.perform, Instruction.registerWord_lead,
      Instruction.registerWord_x, Instruction.registerWord_y, Instruction.registerWord_last,
      Instruction.byteWord_lead, Instruction.byteWord_x, Instruction.byteWord_y,
      Instruction.byteWord_last, Instruction.byteWord_low, Instruction.addressWord_lead,
      Instruction.addressWord_low, hbyte, Nat.reduceLT, Nat.reduceMod, Nat.reduceDiv, Fin.is_lt]
  case clearScreen => exact row_clearScreen ..
  case returnToCaller => exact row_returnToCaller ..
  case call target => exact row_call ..
  case jumpByV0 base => exact row_jumpByV0 ..
  case addToIndex x => exact row_addToIndex ..
  case locateGlyph x => exact row_locateGlyph ..
  case storeDigits x => exact row_storeDigits ..
  case storeRegisters x => exact row_storeRegisters ..
  case loadRegisters x => exact row_loadRegisters ..
  case saveFlags x => exact row_saveFlags ..
  case restoreFlags x => exact row_restoreFlags ..
  -- the others put into the same places what is computed from the same values
  all_goals
    simp only [Abstract.Machine.row, execute, Except.map, abstraction_advance,
      abstraction_setWithFlag, abstraction_setRegister, abstraction_goTo, abstraction_skipWhen,
      abstraction_drawSprite, abstraction_register, hresidue, UInt8.ofNat_toNat]
  case subtract x y => simp only [UInt8.le_iff_toNat_le]
  case subtractFrom x y => simp only [UInt8.le_iff_toNat_le]
  case shiftRight x y => rw [half_eq, Nat.testBit_zero]
  case shiftLeft x y => rw [double_eq, testBit_seven]
  all_goals rfl

/-- A word without an instruction is in no row. -/
theorem perform_illegalOpcode (abstract : Abstract.Machine) {word : UInt16}
    (hdecode : Instruction.decode? word = none) :
    abstract.perform word.toNat = .error .illegalOpcode := by
  have hstored : Raw.decode word = none := by
    rw [Raw.decode_eq, hdecode]
    rfl
  unfold Raw.decode Raw.ofDigits at hstored
  rw [Raw.toNat_leadDigit, Raw.toNat_xDigit, Raw.toNat_yDigit, Raw.toNat_lastDigit] at hstored
  unfold Abstract.Machine.perform Abstract.Machine.row
  split
  case h_37 => rfl
  all_goals simp_all

/-! ## Steps -/

/-- A step of the machine is a step of the abstract machine. -/
theorem step_abstraction : machine.abstraction.step = machine.step.map abstraction := by
  rw [step, Abstract.Machine.step]
  cases hwaiting : machine.keys.waiting with
  | some x =>
      have hheld : machine.isWaiting = true := by
        rw [isWaiting, KeyLatch.isWaiting, hwaiting]
        rfl
      have habstract : machine.abstraction.waiting = some (residue x) := by
        simp [abstraction, hwaiting]
      rw [if_pos hheld, habstract]
      rfl
  | none =>
      have hfree : ¬ machine.isWaiting = true := by
        rw [isWaiting, KeyLatch.isWaiting, hwaiting]
        decide
      have habstract : machine.abstraction.waiting = none := by
        simp [abstraction, hwaiting]
      rw [if_neg hfree, habstract, fetch_abstraction]
      cases hdecode : Instruction.decode? machine.word with
      | none => exact perform_illegalOpcode machine.abstraction hdecode
      | some instruction =>
          rw [← Instruction.encodeNat_of_decode? hdecode]
          exact machine.perform_encodeNat instruction

end Machine

namespace Raw.Machine

/-- The abstract machine that a stored machine is one of. -/
def abstraction (machine : Machine) : Abstract.Machine :=
  machine.view.abstraction

/-- A step of a stored machine that some calls lead to ends as the step of its
abstraction does: with the same fault, and then the machine is what it was, or with
a machine whose abstraction is the next abstract machine. -/
theorem step_refines_table {machine : Machine} (hreachable : machine.Reachable) :
    ∃ result next, machine.step = .ok (result, next) ∧
      machine.abstraction.step = (result.map fun _ => next.abstraction) ∧
      ∀ fault, result = .error fault → next = machine := by
  have hanswers := answers_step hreachable.wellFormed
  rw [abstraction, Chip8.Machine.step_abstraction]
  generalize machine.step = attempt at hanswers ⊢
  generalize machine.view.step = expected at hanswers ⊢
  cases hanswers with
  | @done next hnext =>
      refine ⟨.ok (), next, rfl, rfl, ?_⟩
      intro fault hfault
      cases hfault
  | failed fault => exact ⟨.error fault, machine, rfl, rfl, fun _ _ => rfl⟩

/-- VF is added to itself, so that the result and the carry are meant for the same
register. -/
theorem step_refines_table_carry : ∃ fresh last : Machine,
    load [0x6F, 0x80, 0x8F, 0xF4] 0 0 = .ok (.ok fresh) ∧ fresh.afterAll [.step] = .ok last ∧
      last.Reachable ∧
      ∃ result next, last.step = .ok (result, next) ∧
        last.abstraction.step = (result.map fun _ => next.abstraction) ∧
        ∀ fault, result = .error fault → next = last := by
  have hlength : ([0x6F, 0x80, 0x8F, 0xF4] : List UInt8).length ≤ Memory.maxProgramLength := by
    decide
  obtain ⟨fresh, hload, hfresh, _⟩ := load_of_length_le hlength 0 0
  obtain ⟨last, hlast, _, _⟩ := afterAll_eq hfresh [.step]
  have hreachable : last.Reachable :=
    ⟨[0x6F, 0x80, 0x8F, 0xF4], 0, 0, [.step], fresh, hload, hlast⟩
  exact ⟨fresh, last, hload, hlast, hreachable, step_refines_table hreachable⟩

end Raw.Machine

end Chip8
