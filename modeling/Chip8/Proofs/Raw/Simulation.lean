import Chip8.Proofs.Raw.FrameBuffer
import Chip8.Proofs.Raw.Parts

/-!
# The stored machine does what the machine does

A stored machine whose counter and index are addresses, whose stack is in order
and whose pending wait names a register stays one whatever is done to it.  Each
call on it answers as the call on the machine that it stands for, without a
crash, and if the answer is a fault the stored machine is what it was.
-/

namespace Chip8.Raw.Machine

variable {machine changed : Machine}

/-- Addresses are addresses, the stack is in order, and a pending wait names a
register. -/
structure WellFormed (machine : Machine) : Prop where
  counter_lt : machine.counter.toNat < 4096
  index_lt : machine.index.toNat < 4096
  stack : machine.stack.WellFormed
  waiting_lt : ∀ x, machine.keys.waiting = some x → x.toNat < 16

/-- What a call on a stored machine yields beside what the call on the machine
that it stands for does: a well-formed machine, or the old one with a fault. -/
inductive Answers (machine : Machine) :
    Checked (Attempt Unit) → Except Fault Chip8.Machine → Prop where
  | done {next : Machine} (hnext : next.WellFormed) :
      Answers machine (.ok (.ok (), next)) (.ok next.view)
  | failed (fault : Fault) : Answers machine (.ok (.error fault, machine)) (.error fault)

/-- What an instruction yields beside what it does to the machine that the
stored one stands for, except that the counter has still to be moved. -/
inductive Executes (machine : Machine) :
    Checked (Attempt Flow) → Except Fault Chip8.Machine → Prop where
  | done {flow : Flow} {changed : Machine} (hchanged : changed.WellFormed) :
      Executes machine (.ok (.ok flow, changed))
        (.ok (changed.view.goTo (addressOf (flow.target machine.counter))))
  | failed (fault : Fault) : Executes machine (.ok (.error fault, machine)) (.error fault)

/-! ## Registers -/

@[simp] theorem lastDigit_ofNat (x : Register) : lastDigit (UInt8.ofNat x.val).toNat = x := by
  apply Fin.ext
  show (UInt8.ofNat x.val).toNat % 16 = x.val
  rw [UInt8.toNat_ofNat']
  omega

/-- The machine with another value in a register. -/
def withRegister (machine : Machine) (x : Register) (value : UInt8) : Machine :=
  { machine with registers := (machine.view.setRegister x value).registers }

@[simp] theorem view_withRegister (x : Register) (value : UInt8) :
    (machine.withRegister x value).view = machine.view.setRegister x value := rfl

/-- Changes elsewhere keep a machine well-formed. -/
theorem WellFormed.of_same (hmachine : machine.WellFormed)
    (hcounter : changed.counter = machine.counter) (hindex : changed.index = machine.index)
    (hstack : changed.stack = machine.stack) (hkeys : changed.keys = machine.keys) :
    changed.WellFormed where
  counter_lt := hcounter ▸ hmachine.counter_lt
  index_lt := hindex ▸ hmachine.index_lt
  stack := hstack ▸ hmachine.stack
  waiting_lt := hkeys ▸ hmachine.waiting_lt

theorem WellFormed.withStack (hmachine : machine.WellFormed) {stack : CallStack}
    (hstack : stack.WellFormed) : WellFormed { machine with stack := stack } :=
  ⟨hmachine.counter_lt, hmachine.index_lt, hstack, hmachine.waiting_lt⟩

theorem WellFormed.withKeys (hmachine : machine.WellFormed) {keys : KeyLatch UInt8}
    (hkeys : ∀ x, keys.waiting = some x → x.toNat < 16) :
    WellFormed { machine with keys := keys } :=
  ⟨hmachine.counter_lt, hmachine.index_lt, hmachine.stack, hkeys⟩

theorem WellFormed.withRegister (hmachine : machine.WellFormed) (x : Register) (value : UInt8) :
    (machine.withRegister x value).WellFormed :=
  hmachine.of_same rfl rfl rfl rfl

/-- Whatever a byte holds, its low half names a register. -/
theorem register_eq (x : UInt8) :
    machine.register x = .ok (machine.view.register (lastDigit x.toNat)) := by
  have hplace : x.toNat % 16 < 16 := Nat.mod_lt _ (by decide)
  rw [register, toNat_and_lowNibble, entryAt_eq _ hplace]
  rfl

theorem register_ofNat (x : Register) :
    machine.register (UInt8.ofNat x.val) = .ok (machine.view.register x) := by
  rw [register_eq, lastDigit_ofNat]

theorem setRegister_eq (x value : UInt8) :
    machine.setRegister x value = .ok (machine.withRegister (lastDigit x.toNat) value) := by
  have hplace : x.toNat % 16 < 16 := Nat.mod_lt _ (by decide)
  rw [setRegister, toNat_and_lowNibble, replaceAt_eq _ _ hplace]
  rfl

/-- Replacing the first registers in place. -/
theorem replaceRange_registers (machine : Machine) (values : List UInt8)
    (hlength : values.length ≤ 16) :
    replaceRange machine.registers 0 values.length values
      = .ok (machine.view.setFirstRegisters values).registers := by
  have hreplace := replaceRange_eq machine.registers 0 values (by omega)
  rw [Nat.zero_add] at hreplace
  rw [hreplace]
  simp [Chip8.Machine.setFirstRegisters, view]

theorem length_firstRegisters (machine : Machine) (x : Register) :
    (machine.registers.toList.take (x.val + 1)).length = x.val + 1 :=
  machine.view.length_registersUpTo x

/-- Registers that are replaced by themselves stay. -/
theorem replaceRange_firstRegisters (machine : Machine) (x : Register) :
    replaceRange machine.registers 0 (x.val + 1) (machine.registers.toList.take (x.val + 1))
      = .ok machine.registers := by
  have hlength := length_firstRegisters machine x
  have hreplace := replaceRange_registers machine
    (machine.registers.toList.take (x.val + 1)) (by omega)
  rw [hlength] at hreplace
  rw [hreplace]
  refine congrArg Except.ok (Vector.ext ?_)
  intro place hplace
  simp only [Chip8.Machine.setFirstRegisters, Vector.getElem_ofFn]
  by_cases hfirst : place < x.val + 1
  · rw [List.getD_eq_getElem _ _ (by omega)]
    simp
  · rw [List.getD_eq_default _ _ (by omega)]
    rfl

theorem setWithFlag_eq (x value : UInt8) (flag : Bool) :
    machine.setWithFlag x value flag
      = .ok ((machine.withRegister (lastDigit x.toNat) value).withRegister .vF
          (if flag then 1 else 0)) := by
  rw [setWithFlag, setRegister_eq, ok_bind, setRegister_eq]
  rfl

theorem combine_eq (x y : UInt8) (operation : UInt8 → UInt8 → UInt8) :
    machine.combine x y operation = .ok (.ok .next, machine.withRegister (lastDigit x.toNat)
      (operation (machine.view.register (lastDigit x.toNat))
        (machine.view.register (lastDigit y.toNat)))) := by
  rw [combine, register_eq, ok_bind, register_eq, ok_bind, setRegister_eq]
  rfl

theorem combineWithFlag_eq (x y : UInt8) (operation : UInt8 → UInt8 → UInt8 × Bool) :
    machine.combineWithFlag x y operation =
      .ok (.ok .next, (machine.withRegister (lastDigit x.toNat)
        (operation (machine.view.register (lastDigit x.toNat))
          (machine.view.register (lastDigit y.toNat))).1).withRegister .vF
            (if (operation (machine.view.register (lastDigit x.toNat))
              (machine.view.register (lastDigit y.toNat))).2 then 1 else 0)) := by
  rw [combineWithFlag, register_eq, ok_bind, register_eq, ok_bind]
  generalize operation _ _ = outcome
  obtain ⟨value, flag⟩ := outcome
  simp only [setWithFlag_eq, ok_bind, pure_eq_ok]

/-- Nothing is borrowed if the difference is not below zero. -/
theorem subtractWithoutBorrow_eq (left right : UInt8) :
    subtractWithoutBorrow left right = (left - right, decide (right ≤ left)) := by
  simp [subtractWithoutBorrow, ← decide_not]

/-! ## Sprites -/

/-- A sum that stops growing at the largest word fits into a word. -/
theorem toNat_ofNat_saturated (number : Nat) :
    (UInt32.ofNat (min (UInt32.size - 1) number)).toNat = min (UInt32.size - 1) number := by
  rw [UInt32.toNat_ofNat']
  apply Nat.mod_eq_of_lt
  unfold UInt32.size
  omega

/-- A sprite is read, drawn into the bytes of the screen and counted. -/
theorem drawSprite_eq (machine : Machine) (x y : Register) (height : Fin 16) :
    ∃ display collision,
      machine.drawSprite (UInt8.ofNat x.val) (UInt8.ofNat y.val) (UInt8.ofNat height.val)
        = .ok (.ok .next, { (withRegister { machine with display := display } .vF
            (if collision then 1 else 0)) with
              drawnBytes := UInt32.ofNat
                (min (UInt32.size - 1) (machine.drawnBytes.toNat + height.val)) }) ∧
      (display.view, collision)
        = machine.view.screen.draw (machine.view.register x) (machine.view.register y)
            (machine.view.memory.readBlock machine.view.index height.val) := by
  have hheight : height.val ≤ 16 := Nat.le_of_lt height.isLt
  have hlength : ((Vector.replicate 16 (0 : UInt8)).toList.take height.val).length
      = height.val := by
    simp [hheight]
  obtain ⟨⟨display, collision⟩, hdrawn, hview⟩ := FrameBuffer.draw_eq machine.display
    (machine.view.register x) (machine.view.register y)
    (machine.memory.readBlock (addressOf machine.index) height.val) (by
      rw [Memory.length_readBlock]
      exact hheight.trans (by decide))
  refine ⟨display, collision, ?_, hview⟩
  rw [drawSprite, toNat_ofNat_digit, rangeOf_zero _ hheight, ok_bind, readBytes_eq, hlength,
    ok_bind, register_ofNat, ok_bind, register_ofNat, ok_bind, hdrawn]
  simp only [ok_bind, setRegister_eq, pure_eq_ok]
  rfl

/-! ## Blocks of registers -/

theorem execute_storeDigits (machine : Machine) (x : Register) :
    machine.execute (stored (.storeDigits x)) = .ok (.ok .next, { machine with
      memory := machine.memory.writeBlock (addressOf machine.index)
        (Chip8.Machine.decimalDigits (machine.view.register x)) }) := by
  simp only [stored, InstructionForm.map, execute, register_ofNat, ok_bind, pure_eq_ok,
    writeBytes_eq]
  rfl

theorem execute_storeRegisters (machine : Machine) (x : Register) :
    machine.execute (stored (.storeRegisters x)) = .ok (.ok .next, { machine with
      memory := machine.memory.writeBlock (addressOf machine.index)
        (machine.view.registersUpTo x) }) := by
  simp only [stored, InstructionForm.map, execute, toNat_ofNat_digit,
    rangeOf_zero machine.registers x.isLt, ok_bind, pure_eq_ok, writeBytes_eq]
  rfl

theorem execute_loadRegisters (machine : Machine) (x : Register) :
    machine.execute (stored (.loadRegisters x)) = .ok (.ok .next, { machine with
      registers := (machine.view.setFirstRegisters
        (machine.memory.readBlock (addressOf machine.index) (x.val + 1))).registers }) := by
  have hlength : (machine.memory.readBlock (addressOf machine.index) (x.val + 1)).length
      = x.val + 1 := Memory.length_readBlock ..
  have hreplace := replaceRange_registers machine
    (machine.memory.readBlock (addressOf machine.index) (x.val + 1)) (by omega)
  rw [hlength] at hreplace
  simp only [stored, InstructionForm.map, execute, toNat_ofNat_digit,
    rangeOf_zero machine.registers x.isLt, ok_bind, pure_eq_ok, readBytes_eq,
    length_firstRegisters, hreplace]

theorem execute_saveFlags (machine : Machine) (x : Register) :
    machine.execute (stored (.saveFlags x))
      = .ok (match machine.flags.save (machine.view.registersUpTo x) with
        | .error fault => (.error fault, machine)
        | .ok flags => (.ok .next, { machine with flags := flags })) := by
  have hvalues : machine.view.registersUpTo x = machine.registers.toList.take (x.val + 1) := rfl
  simp only [stored, InstructionForm.map, execute, toNat_ofNat_digit,
    rangeOf_zero machine.registers x.isLt, ok_bind, pure_eq_ok, saveFlags_eq, hvalues]
  cases machine.flags.save (machine.registers.toList.take (x.val + 1)) with
  | error fault => rfl
  | ok flags => rfl

theorem execute_restoreFlags (machine : Machine) (x : Register) :
    machine.execute (stored (.restoreFlags x))
      = .ok (match machine.flags.restore (x.val + 1) with
        | .error fault => (.error fault, machine)
        | .ok values => (.ok .next, { machine with
            registers := (machine.view.setFirstRegisters values).registers })) := by
  simp only [stored, InstructionForm.map, execute, toNat_ofNat_digit,
    rangeOf_zero machine.registers x.isLt, ok_bind, pure_eq_ok, restoreFlags_eq,
    length_firstRegisters]
  cases hrestore : machine.flags.restore (x.val + 1) with
  | error fault =>
      -- the registers are written back even then, with what they held
      simp only [replaceRange_firstRegisters, ok_bind]
      rfl
  | ok values =>
      have hlength := length_of_restore hrestore
      have hreplace := replaceRange_registers machine values (by omega)
      rw [hlength] at hreplace
      simp only [hreplace, ok_bind]
      rfl

/-! ## Where execution goes on -/

/-- An instruction that succeeds and lets the next one follow. -/
theorem executes_next (hchanged : changed.WellFormed)
    (hcounter : changed.counter = machine.counter) :
    machine.Executes (.ok (.ok .next, changed)) (.ok changed.view.advance) := by
  have hadvance : changed.view.advance
      = changed.view.goTo (addressOf (Flow.next.target machine.counter)) := by
    rw [Flow.target, addressOf_add, ← hcounter]
    rfl
  rw [hadvance]
  exact .done hchanged

/-- An instruction that changes nothing and may skip the next one. -/
theorem executes_skipWhen (hmachine : machine.WellFormed) (condition : Bool) :
    machine.Executes (machine.skipWhen condition) (.ok (machine.view.skipWhen condition)) := by
  have hskip : machine.view.skipWhen condition = machine.view.goTo
      (addressOf ((if condition then Flow.skip else .next).target machine.counter)) := by
    cases condition with
    | false => exact congrArg machine.view.goTo (addressOf_add machine.counter 2).symm
    | true => exact congrArg machine.view.goTo (addressOf_add machine.counter 4).symm
  rw [hskip]
  exact .done hmachine

/-- An instruction that names the address of the next one. -/
theorem executes_jump (hchanged : changed.WellFormed) {target : UInt16} {address : Address}
    (htarget : addressOf target = address) :
    machine.Executes (.ok (.ok (.jump target), changed)) (.ok (changed.view.goTo address)) := by
  subst htarget
  exact .done hchanged

/-- Moving the counter completes an instruction. -/
theorem Executes.carryOut {instruction : Instruction} {expected : Except Fault Chip8.Machine}
    (hexecute : machine.Executes (machine.execute instruction) expected) :
    machine.Answers (machine.carryOut instruction) expected := by
  rw [Machine.carryOut]
  generalize machine.execute instruction = attempt at hexecute
  cases hexecute with
  | @done flow changed hchanged =>
      have hmoved : WellFormed
          { changed with counter := flow.target machine.counter &&& addressMask } := by
        refine ⟨?_, hchanged.index_lt, hchanged.stack, hchanged.waiting_lt⟩
        exact toNat_and_addressMask_lt (flow.target machine.counter)
      have hdone : machine.Answers _ _ := .done hmoved
      have hview : Machine.view
          { changed with counter := flow.target machine.counter &&& addressMask }
          = changed.view.goTo (addressOf (flow.target machine.counter)) :=
        congrArg changed.view.goTo (addressOf_masked (flow.target machine.counter))
      rw [hview] at hdone
      exact hdone
  | failed fault => exact .failed fault

/-! ## Instructions -/

section Instructions

variable (hmachine : machine.WellFormed)

include hmachine

theorem executes_combine (x y : Register) (operation : UInt8 → UInt8 → UInt8) :
    machine.Executes (machine.combine (UInt8.ofNat x.val) (UInt8.ofNat y.val) operation)
      (.ok (machine.view.setRegister x
        (operation (machine.view.register x) (machine.view.register y))).advance) := by
  rw [combine_eq, lastDigit_ofNat, lastDigit_ofNat, ← view_withRegister]
  exact executes_next (hmachine.withRegister ..) rfl

theorem executes_combineWithFlag (x y : Register) (operation : UInt8 → UInt8 → UInt8 × Bool)
    {value : UInt8} {flag : Bool}
    (hoperation : operation (machine.view.register x) (machine.view.register y) = (value, flag)) :
    machine.Executes (machine.combineWithFlag (UInt8.ofNat x.val) (UInt8.ofNat y.val) operation)
      (.ok (machine.view.setWithFlag x value flag).advance) := by
  rw [combineWithFlag_eq, lastDigit_ofNat, lastDigit_ofNat, hoperation]
  exact executes_next ((hmachine.withRegister ..).withRegister ..) rfl

theorem executes_setRegister (x : Register) (value : UInt8) :
    machine.Executes (do return (.ok .next, ← machine.setRegister (UInt8.ofNat x.val) value))
      (.ok (machine.view.setRegister x value).advance) := by
  rw [setRegister_eq, lastDigit_ofNat, ok_bind, ← view_withRegister]
  exact executes_next (hmachine.withRegister ..) rfl

theorem executes_drawSprite (x y : Register) (height : Fin 16) :
    machine.Executes (machine.drawSprite (UInt8.ofNat x.val) (UInt8.ofNat y.val)
      (UInt8.ofNat height.val)) (.ok (machine.view.drawSprite x y height).advance) := by
  obtain ⟨display, collision, hdrawn, hview⟩ := drawSprite_eq machine x y height
  have hchanged : WellFormed { (withRegister
      { machine with display := display } .vF (if collision then 1 else 0)) with
        drawnBytes := UInt32.ofNat
          (min (UInt32.size - 1) (machine.drawnBytes.toNat + height.val)) } :=
    hmachine.of_same rfl rfl rfl rfl
  have hdone := executes_next hchanged (show _ = machine.counter from rfl)
  simp only [view, toNat_ofNat_saturated] at hdone
  simp only [hdrawn, Chip8.Machine.drawSprite, ← hview]
  exact hdone

/-- An instruction that puts an address into the index. -/
theorem executes_setIndex {target : UInt16} {address : Address}
    (haddress : addressOf target = address) (htarget : target.toNat < 4096) :
    machine.Executes (.ok (.ok .next, { machine with index := target }))
      (.ok { machine.view with index := address }.advance) := by
  have hchanged : WellFormed { machine with index := target } :=
    ⟨hmachine.counter_lt, htarget, hmachine.stack, hmachine.waiting_lt⟩
  subst haddress
  exact executes_next hchanged rfl

theorem executes_returnToCaller :
    machine.Executes (machine.execute (stored .returnToCaller))
      (machine.view.execute .returnToCaller) := by
  simp only [stored, InstructionForm.map, execute, Chip8.Machine.execute]
  rcases CallStack.pop_cases hmachine.stack with
    ⟨hraw, htyped⟩ | ⟨target, stack, hraw, _, hstack, htyped⟩
  · have hview : machine.view.stack.pop = .error .badReturn := htyped
    rw [hraw, hview]
    exact .failed .badReturn
  · have hview : machine.view.stack.pop = .ok (addressOf target, stack.view) := htyped
    rw [hraw, hview]
    exact executes_jump (hmachine.withStack hstack) rfl

theorem executes_call (target : Address) :
    machine.Executes (machine.execute (stored (.call target)))
      (machine.view.execute (.call target)) := by
  have haddress : addressOf ((machine.counter + 2) &&& addressMask)
      = machine.view.counter.offset 2 := by
    rw [addressOf_masked, addressOf_add]
    rfl
  simp only [stored, InstructionForm.map, execute, Chip8.Machine.execute]
  rcases CallStack.push_cases hmachine.stack (toNat_and_addressMask_lt _) with
    ⟨hraw, htyped⟩ | ⟨stack, hraw, hstack, htyped⟩
  · have hview : machine.view.stack.push (machine.view.counter.offset 2)
        = .error .stackOverflow := haddress ▸ htyped
    rw [hraw, hview]
    exact .failed .stackOverflow
  · have hview : machine.view.stack.push (machine.view.counter.offset 2) = .ok stack.view :=
      haddress ▸ htyped
    rw [hraw, hview]
    exact executes_jump (hmachine.withStack hstack) (addressOf_ofNat target)

theorem executes_shiftRight (x y : Register) :
    machine.Executes (machine.execute (stored (.shiftRight x y)))
      (machine.view.execute (.shiftRight x y)) := by
  simp only [Chip8.Machine.execute]
  refine executes_combineWithFlag hmachine x x
    (fun value _ => (value >>> 1, value &&& 0x01 ≠ 0)) ?_
  have hbit := FrameBuffer.and_bit_ne_zero (machine.view.register x) (show 0 < 8 by decide)
  have hplace : (1 : UInt8) <<< UInt8.ofNat 0 = 0x01 := by decide
  rw [hplace] at hbit
  simp only [hbit, Bool.decide_eq_true]

theorem executes_shiftLeft (x y : Register) :
    machine.Executes (machine.execute (stored (.shiftLeft x y)))
      (machine.view.execute (.shiftLeft x y)) := by
  simp only [Chip8.Machine.execute]
  refine executes_combineWithFlag hmachine x x
    (fun value _ => (value <<< 1, value &&& 0x80 ≠ 0)) ?_
  have hbit := FrameBuffer.and_bit_ne_zero (machine.view.register x) (show 7 < 8 by decide)
  have hplace : (1 : UInt8) <<< UInt8.ofNat 7 = 0x80 := by decide
  rw [hplace] at hbit
  simp only [hbit, Bool.decide_eq_true]

theorem executes_awaitKey (x : Register) :
    machine.Executes (machine.execute (stored (.awaitKey x)))
      (machine.view.execute (.awaitKey x)) := by
  have hwaiting : WellFormed
      { machine with keys := machine.keys.waitFor (UInt8.ofNat x.val) } := by
    apply hmachine.withKeys
    intro y hy
    cases hy
    rw [toNat_ofNat_digit]
    exact x.isLt
  have hview : keysView (machine.keys.waitFor (UInt8.ofNat x.val))
      = (keysView machine.keys).waitFor x := by
    simp only [keysView, KeyLatch.waitFor, Option.map_some, lastDigit_ofNat]
  have hnext := executes_next hwaiting (show _ = machine.counter from rfl)
  simp only [view, hview] at hnext
  exact hnext

theorem executes_saveFlags (x : Register) :
    machine.Executes (machine.execute (stored (.saveFlags x)))
      (machine.view.execute (.saveFlags x)) := by
  have hflags : machine.view.flags = machine.flags := rfl
  rw [execute_saveFlags, Chip8.Machine.execute, hflags]
  cases machine.flags.save (machine.view.registersUpTo x) with
  | error fault => exact .failed fault
  | ok flags => exact executes_next (hmachine.of_same rfl rfl rfl rfl) rfl

theorem executes_restoreFlags (x : Register) :
    machine.Executes (machine.execute (stored (.restoreFlags x)))
      (machine.view.execute (.restoreFlags x)) := by
  have hflags : machine.view.flags = machine.flags := rfl
  rw [execute_restoreFlags, Chip8.Machine.execute, hflags]
  cases machine.flags.restore (x.val + 1) with
  | error fault => exact .failed fault
  | ok values => exact executes_next (hmachine.of_same rfl rfl rfl rfl) rfl

/-- An instruction does to a stored machine what it does to the machine that
this stands for. -/
theorem executes_stored (instruction : Chip8.Instruction) :
    machine.Executes (machine.execute (stored instruction))
      (machine.view.execute instruction) := by
  cases instruction with
  | clearScreen =>
      have hcleared : WellFormed { machine with display := machine.display.clear } :=
        hmachine.of_same rfl rfl rfl rfl
      have hview : Machine.view { machine with display := machine.display.clear }
          = { machine.view with screen := machine.view.screen.clear } := by
        simp [view]
      rw [Chip8.Machine.execute, ← hview]
      exact executes_next hcleared rfl
  | returnToCaller => exact executes_returnToCaller hmachine
  | jump target => exact executes_jump hmachine (addressOf_ofNat target)
  | call target => exact executes_call hmachine target
  | skipIfByte x byte =>
      simp only [stored, InstructionForm.map, execute, register_ofNat, ok_bind]
      exact executes_skipWhen hmachine _
  | skipUnlessByte x byte =>
      simp only [stored, InstructionForm.map, execute, register_ofNat, ok_bind]
      exact executes_skipWhen hmachine _
  | skipIfEqual x y =>
      simp only [stored, InstructionForm.map, execute, register_ofNat, ok_bind]
      exact executes_skipWhen hmachine _
  | skipUnlessEqual x y =>
      simp only [stored, InstructionForm.map, execute, register_ofNat, ok_bind]
      exact executes_skipWhen hmachine _
  | setByte x byte => exact executes_setRegister hmachine x byte
  | addByte x byte => exact executes_combine hmachine x x fun value _ => value + byte
  | copy x y => exact executes_combine hmachine x y fun _ right => right
  | or x y => exact executes_combine hmachine x y fun left right => left ||| right
  | and x y => exact executes_combine hmachine x y fun left right => left &&& right
  | xor x y => exact executes_combine hmachine x y fun left right => left ^^^ right
  | add x y => exact executes_combineWithFlag hmachine x y addWithCarry rfl
  | subtract x y =>
      simp only [Chip8.Machine.execute]
      exact executes_combineWithFlag hmachine x y subtractWithoutBorrow
        (subtractWithoutBorrow_eq ..)
  | subtractFrom x y =>
      simp only [Chip8.Machine.execute]
      exact executes_combineWithFlag hmachine x y
        (fun left right => subtractWithoutBorrow right left) (subtractWithoutBorrow_eq ..)
  | shiftRight x y => exact executes_shiftRight hmachine x y
  | shiftLeft x y => exact executes_shiftLeft hmachine x y
  | setIndex target =>
      refine executes_setIndex hmachine (addressOf_ofNat target) ?_
      rw [UInt16.toNat_ofNat']
      omega
  | jumpByV0 base =>
      have hzero : machine.register 0 = .ok (machine.view.register .v0) := register_ofNat .v0
      simp only [stored, InstructionForm.map, execute, hzero, ok_bind, pure_eq_ok]
      apply executes_jump hmachine
      rw [addressOf_add, addressOf_ofNat, UInt8.toNat_toUInt16]
  | random x mask =>
      have hdrawn : WellFormed { machine with random := machine.random.next.2 } :=
        hmachine.of_same rfl rfl rfl rfl
      simp only [stored, InstructionForm.map, execute, setRegister_eq, lastDigit_ofNat, ok_bind,
        pure_eq_ok]
      exact executes_next (hdrawn.withRegister x _) rfl
  | draw x y height => exact executes_drawSprite hmachine x y height
  | skipIfHeld x =>
      simp only [stored, InstructionForm.map, execute, register_ofNat, ok_bind, isPressed_eq]
      exact executes_skipWhen hmachine _
  | skipUnlessHeld x =>
      simp only [stored, InstructionForm.map, execute, register_ofNat, ok_bind, isPressed_eq]
      exact executes_skipWhen hmachine _
  | readDelay x => exact executes_setRegister hmachine x _
  | awaitKey x => exact executes_awaitKey hmachine x
  | setDelay x =>
      simp only [stored, InstructionForm.map, execute, register_ofNat, ok_bind, pure_eq_ok]
      exact executes_next (hmachine.of_same rfl rfl rfl rfl) rfl
  | setSound x =>
      simp only [stored, InstructionForm.map, execute, register_ofNat, ok_bind, pure_eq_ok]
      exact executes_next (hmachine.of_same rfl rfl rfl rfl) rfl
  | addToIndex x =>
      simp only [stored, InstructionForm.map, execute, register_ofNat, ok_bind, pure_eq_ok]
      refine executes_setIndex hmachine ?_ (toNat_and_addressMask_lt _)
      rw [addressOf_masked, addressOf_add, UInt8.toNat_toUInt16]
      rfl
  | locateGlyph x =>
      simp only [stored, InstructionForm.map, execute, register_ofNat, ok_bind, pure_eq_ok,
        glyphAddress_eq]
      refine executes_setIndex hmachine (addressOf_ofNat _) ?_
      rw [UInt16.toNat_ofNat']
      omega
  | storeDigits x =>
      rw [execute_storeDigits]
      exact executes_next (hmachine.of_same rfl rfl rfl rfl) rfl
  | storeRegisters x =>
      rw [execute_storeRegisters]
      exact executes_next (hmachine.of_same rfl rfl rfl rfl) rfl
  | loadRegisters x =>
      rw [execute_loadRegisters]
      exact executes_next (hmachine.of_same rfl rfl rfl rfl) rfl
  | saveFlags x => exact executes_saveFlags hmachine x
  | restoreFlags x => exact executes_restoreFlags hmachine x

end Instructions

/-! ## Calls -/

/-- The word at the counter can always be read. -/
theorem word_eq (machine : Machine) : machine.word = .ok machine.view.word :=
  wordAt_eq machine.memory machine.counter

theorem view_word {word : UInt16} (hword : machine.word = .ok word) : machine.view.word = word :=
  Except.ok.inj (machine.word_eq.symm.trans hword)

@[simp] theorem isWaiting_view (machine : Machine) :
    machine.view.isWaiting = machine.keys.isWaiting := by
  simp [Chip8.Machine.isWaiting, KeyLatch.isWaiting, view, keysView]

/-- An instruction that can be carried out is, if the machine does not wait for a key. -/
theorem step_of_execute {instruction : Chip8.Instruction} {flow : Flow} {changed : Machine}
    (hfree : machine.keys.isWaiting = false)
    (hdecode : Instruction.decode? machine.view.word = some instruction)
    (hexecute : machine.execute (stored instruction) = .ok (.ok flow, changed)) :
    machine.step = .ok (.ok (),
      { changed with counter := flow.target machine.counter &&& addressMask }) := by
  rw [step, hfree, word_eq]
  simp only [Bool.false_eq_true, if_false, ok_bind, decode_eq, hdecode, Option.map_some, carryOut,
    hexecute]
  rfl

theorem answers_step (hmachine : machine.WellFormed) :
    machine.Answers machine.step machine.view.step := by
  rw [step, Chip8.Machine.step, isWaiting_view]
  by_cases hheld : machine.keys.isWaiting = true
  · rw [if_pos hheld, if_pos hheld]
    exact .done hmachine
  · rw [if_neg hheld, if_neg hheld, word_eq, ok_bind, decode_eq]
    cases Instruction.decode? machine.view.word with
    | none => exact .failed .illegalOpcode
    | some instruction => exact (executes_stored hmachine instruction).carryOut

theorem answers_setKeys (hmachine : machine.WellFormed) (mask : KeyMask) :
    machine.Answers (do return (.ok (), ← machine.setKeys mask))
      (.ok (machine.view.setKeys mask)) := by
  have hkeys : machine.view.keys = keysView machine.keys := rfl
  rw [setKeys, Chip8.Machine.setKeys, hkeys]
  rcases replaceMask_cases machine.keys mask with
    ⟨keys, hreplace, hwaiting, hdelivery, hview⟩ |
    ⟨x, key, keys, hreplace, hwaiting, hdelivery, hview⟩
  · have hnext : WellFormed { machine with keys := keys } :=
      hmachine.withKeys (hwaiting ▸ hmachine.waiting_lt)
    simp only [hreplace, hdelivery, ← hview]
    exact .done hnext
  · have hnext : WellFormed { machine with keys := keys } := by
      apply hmachine.withKeys
      intro y hy
      rw [hwaiting] at hy
      contradiction
    simp only [hreplace, hdelivery, ← hview, setRegister_eq, ok_bind]
    exact .done (hnext.withRegister ..)

/-- A new mask changes the keys, and a register at most. -/
theorem exists_answer_setKeys (machine : Machine) (mask : KeyMask) : ∃ registers keys,
    machine.answer (.setKeys mask)
      = .ok (.ok (), { machine with registers := registers, keys := keys }) := by
  rw [answer, setKeys]
  cases replaceMask machine.keys mask with
  | mk delivery keys =>
      cases delivery with
      | none => exact ⟨machine.registers, keys, rfl⟩
      | some delivered =>
          simp only [setRegister_eq, ok_bind, pure_eq_ok]
          exact ⟨_, keys, rfl⟩

theorem kept_of_setKeys {mask : KeyMask} {result : Except Fault Unit} {next : Machine}
    (hanswer : machine.answer (.setKeys mask) = .ok (result, next)) :
    result = .ok () ∧
      ∃ registers keys, { machine with registers := registers, keys := keys } = next := by
  obtain ⟨registers, keys, hset⟩ := machine.exists_answer_setKeys mask
  rw [hset] at hanswer
  cases hanswer
  exact ⟨rfl, registers, keys, rfl⟩

/-- Loading fails for both machines, or yields machines that belong together. -/
theorem load_cases (program : List UInt8) (seed initialFlags : UInt64) :
    (∃ fault, load program seed initialFlags = .ok (.error fault) ∧
      Chip8.Machine.load program seed initialFlags = .error fault) ∨
    ∃ fresh, load program seed initialFlags = .ok (.ok fresh) ∧ fresh.WellFormed ∧
      Chip8.Machine.load program seed initialFlags = .ok fresh.view := by
  rw [load, freshMemory_eq, ok_bind, loadProgram_eq, Chip8.Machine.load]
  cases Memory.fresh.loadProgram program with
  | error fault => exact .inl ⟨fault, rfl, rfl⟩
  | ok memory =>
      right
      refine ⟨_, rfl, ?_, ?_⟩
      · have hcounter : programAddress.toNat < 4096 := by decide
        have hindex : (0 : UInt16).toNat < 4096 := by decide
        refine ⟨hcounter, hindex, CallStack.wellFormed_empty, ?_⟩
        intro x hx
        cases hx
      · simp only [view, CallStack.view_empty, FrameBuffer.view_blank]
        rfl

/-- A reset loads a machine, or fails and leaves the old one. -/
theorem answer_reset_cases {program : List UInt8} {seed initialFlags : UInt64}
    {result : Except Fault Unit} {next : Machine}
    (hanswer : machine.answer (.reset program seed initialFlags) = .ok (result, next)) :
    (∃ fault, result = .error fault ∧ machine = next) ∨
      (result = .ok () ∧ load program seed initialFlags = .ok (.ok next)) := by
  rcases load_cases program seed initialFlags with ⟨fault, hload, -⟩ | ⟨fresh, hload, -⟩
  · rw [answer, hload] at hanswer
    cases hanswer
    exact .inl ⟨fault, rfl, rfl⟩
  · rw [answer, hload] at hanswer
    cases hanswer
    exact .inr ⟨rfl, hload⟩

/-- A machine that is loaded is well-formed and stands for one that is loaded. -/
theorem wellFormed_of_load {program : List UInt8} {seed initialFlags : UInt64} {fresh : Machine}
    (hload : load program seed initialFlags = .ok (.ok fresh)) :
    fresh.WellFormed ∧ Chip8.Machine.load program seed initialFlags = .ok fresh.view := by
  rcases load_cases program seed initialFlags with
    ⟨fault, hfault, _⟩ | ⟨loaded, hloaded, hwell, htyped⟩
  · rw [hload] at hfault
    cases hfault
  · rw [hload] at hloaded
    cases hloaded
    exact ⟨hwell, htyped⟩

/-- Every call on a stored machine answers as the call on the machine that it
stands for. -/
theorem answers (hmachine : machine.WellFormed) (call : Machine.Call) :
    machine.Answers (machine.answer call) (machine.view.answer call) := by
  cases call with
  | step => exact answers_step hmachine
  | tick => exact .done (hmachine.of_same rfl rfl rfl rfl)
  | setKeys mask => exact answers_setKeys hmachine mask
  | acknowledgeScreen => exact .done (hmachine.of_same rfl rfl rfl rfl)
  | acknowledgeFlags => exact .done (hmachine.of_same rfl rfl rfl rfl)
  | resetDrawnBytes => exact .done (hmachine.of_same rfl rfl rfl rfl)
  | reset program seed initialFlags =>
      rw [answer, Chip8.Machine.answer]
      rcases load_cases program seed initialFlags with
        ⟨fault, hraw, htyped⟩ | ⟨fresh, hraw, hfresh, htyped⟩
      · rw [hraw, htyped]
        exact .failed fault
      · rw [hraw, htyped]
        exact .done hfresh

/-- A call succeeds, or fails and leaves the machine as it was. -/
theorem answer_cases (hmachine : machine.WellFormed) (call : Machine.Call) :
    (∃ next, machine.answer call = .ok (.ok (), next) ∧ next.WellFormed ∧
      machine.view.answer call = .ok next.view) ∨
    ∃ fault, machine.answer call = .ok (.error fault, machine) ∧
      machine.view.answer call = .error fault := by
  have hanswers := answers hmachine call
  generalize machine.answer call = attempt at hanswers ⊢
  generalize machine.view.answer call = expected at hanswers ⊢
  cases hanswers with
  | @done next hnext => exact .inl ⟨next, rfl, hnext, rfl⟩
  | failed fault => exact .inr ⟨fault, rfl, rfl⟩

/-- A step that succeeds is one of the machine that the stored one stands for. -/
theorem view_of_step {next : Machine} (hmachine : machine.WellFormed)
    (hstep : machine.step = .ok (.ok (), next)) : machine.view.step = .ok next.view := by
  have hanswer : machine.answer .step = .ok (.ok (), next) := hstep
  rcases answer_cases hmachine .step with ⟨other, hother, -, htyped⟩ | ⟨fault, hother, -⟩
  · rw [hanswer] at hother
    cases hother
    exact htyped
  · rw [hanswer] at hother
    cases hother

theorem eq_of_step_error {next : Machine} {fault : Fault} (hmachine : machine.WellFormed)
    (hstep : machine.step = .ok (.error fault, next)) : next = machine := by
  have hanswer : machine.answer .step = .ok (.error fault, next) := hstep
  rcases answer_cases hmachine .step with ⟨other, hother, -⟩ | ⟨other, hother, -⟩
  · rw [hanswer] at hother
    cases hother
  · rw [hanswer] at hother
    cases hother
    rfl

/-- A list of calls does not crash, and leads where it leads the machine that the
stored one stands for. -/
theorem afterAll_eq (hmachine : machine.WellFormed) (calls : List Machine.Call) :
    ∃ last, machine.afterAll calls = .ok last ∧ last.WellFormed ∧
      last.view = machine.view.afterAll calls := by
  induction calls generalizing machine with
  | nil => exact ⟨machine, rfl, hmachine, rfl⟩
  | cons call rest ih =>
      have htyped : machine.view.afterAll (call :: rest)
          = (machine.view.after call).afterAll rest := rfl
      rw [afterAll, htyped, Chip8.Machine.after]
      -- after a failed call the run goes on from the old machine
      rcases answer_cases hmachine call with ⟨next, hraw, hnext, hview⟩ | ⟨fault, hraw, hview⟩
      · rw [hraw, hview]
        exact ih hnext
      · rw [hraw, hview]
        exact ih hmachine

end Chip8.Raw.Machine
