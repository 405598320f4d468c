import Chip8.Proofs.Raw.Events

/-!
# Parts that few instructions use

The timers, the keys and the random generator are each used by three instructions at
most.  Whatever is done to such a part makes no difference to a step that does not use it:
the step has the same result, and it does not matter whether the part is changed before
the step or after it.  For a change that would leave the part as it is, this says that the
step does so, too.
-/

namespace Chip8.Raw

/-! ## Words that use them -/

/-- `FX07`, `FX15` and `FX18`. -/
def UsesTimers (word : UInt16) : Prop :=
  word.toNat / 0x1000 = 0xF ∧
    (word.toNat % 0x100 = 0x07 ∨ word.toNat % 0x100 = 0x15 ∨ word.toNat % 0x100 = 0x18)

/-- `EX9E`, `EXA1` and `FX0A`. -/
def UsesKeys (word : UInt16) : Prop :=
  word.toNat / 0x1000 = 0xE ∧ (word.toNat % 0x100 = 0x9E ∨ word.toNat % 0x100 = 0xA1) ∨
    word.toNat / 0x1000 = 0xF ∧ word.toNat % 0x100 = 0x0A

/-- `CXNN`. -/
def DrawsByte (word : UInt16) : Prop :=
  word.toNat / 0x1000 = 0xC

instance : DecidablePred UsesTimers := fun _ => inferInstanceAs (Decidable (_ ∧ _))

instance : DecidablePred UsesKeys := fun _ => inferInstanceAs (Decidable (_ ∨ _))

instance : DecidablePred DrawsByte := fun _ => inferInstanceAs (Decidable (_ = _))

/-- Something that is done to the timers, the keys and the random generator. -/
structure Adjustment where
  timers : Timers → Timers := id
  keys : KeyLatch UInt8 → KeyLatch UInt8 := id
  random : Random → Random := id

namespace Adjustment

variable {adjustment : Adjustment} {machine next : Machine} {result : Except Fault Unit}

def apply (adjustment : Adjustment) (machine : Machine) : Machine :=
  { machine with
    timers := adjustment.timers machine.timers
    keys := adjustment.keys machine.keys
    random := adjustment.random machine.random }

/-- The instruction at a word uses none of the parts that are adjusted. -/
structure UnusedAt (adjustment : Adjustment) (word : UInt16) : Prop where
  timers : UsesTimers word → adjustment.timers = id
  keys : UsesKeys word → adjustment.keys = id
  random : DrawsByte word → adjustment.random = id

/-- An instruction uses none of the parts that are adjusted. -/
def UnusedBy (adjustment : Adjustment) : Instruction → Prop
  | .readDelay _ | .setDelay _ | .setSound _ => adjustment.timers = id
  | .skipIfHeld _ | .skipUnlessHeld _ | .awaitKey _ => adjustment.keys = id
  | .random _ _ => adjustment.random = id
  | _ => True

theorem UnusedAt.unusedBy {word : UInt16} {instruction : Instruction}
    (hunused : adjustment.UnusedAt word) (hdecode : decode word = some instruction) :
    adjustment.UnusedBy instruction := by
  rw [decode_eq, Option.map_eq_some_iff] at hdecode
  obtain ⟨typed, htyped, rfl⟩ := hdecode
  have hword := Instruction.encodeNat_of_decode? htyped
  -- the word has the digits of the pattern
  have hlow : ∀ lead byte x, typed.encodeNat = Instruction.byteWord lead x byte → byte < 0x100 →
      word.toNat / 0x1000 = lead ∧ word.toNat % 0x100 = byte := by
    intro lead byte x hencode hbyte
    rw [← hword, hencode]
    exact ⟨Instruction.byteWord_lead lead x hbyte, Instruction.byteWord_low lead x hbyte⟩
  cases typed
  case readDelay x =>
    obtain ⟨hlead, hbyte⟩ := hlow 0xF 0x07 x rfl (by decide)
    exact hunused.timers ⟨hlead, .inl hbyte⟩
  case setDelay x =>
    obtain ⟨hlead, hbyte⟩ := hlow 0xF 0x15 x rfl (by decide)
    exact hunused.timers ⟨hlead, .inr (.inl hbyte)⟩
  case setSound x =>
    obtain ⟨hlead, hbyte⟩ := hlow 0xF 0x18 x rfl (by decide)
    exact hunused.timers ⟨hlead, .inr (.inr hbyte)⟩
  case skipIfHeld x =>
    obtain ⟨hlead, hbyte⟩ := hlow 0xE 0x9E x rfl (by decide)
    exact hunused.keys (.inl ⟨hlead, .inl hbyte⟩)
  case skipUnlessHeld x =>
    obtain ⟨hlead, hbyte⟩ := hlow 0xE 0xA1 x rfl (by decide)
    exact hunused.keys (.inl ⟨hlead, .inr hbyte⟩)
  case awaitKey x => exact hunused.keys (.inr (hlow 0xF 0x0A x rfl (by decide)))
  case random x mask => exact hunused.random (hlow 0xC mask.toNat x rfl mask.toNat_lt).1
  all_goals trivial

/-! ## Adjusting afterwards -/

/-- The same computation, with the machine that it leaves adjusted. -/
def after {Result : Type} (adjustment : Adjustment) (attempt : Checked (Attempt Result)) :
    Checked (Attempt Result) := do
  let outcome ← attempt
  return (outcome.1, adjustment.apply outcome.2)

@[simp] theorem after_ok {Result : Type} (outcome : Except Fault Result) :
    adjustment.after (.ok (outcome, machine)) = .ok (outcome, adjustment.apply machine) := rfl

@[simp] theorem after_bind {First Result : Type} (first : Checked First)
    (later : First → Checked (Attempt Result)) :
    adjustment.after (first >>= later) = first >>= fun value => adjustment.after (later value) :=
  bind_assoc ..

/-! ## Instructions -/

theorem combine_apply (x y : UInt8) (operation : UInt8 → UInt8 → UInt8) :
    (adjustment.apply machine).combine x y operation
      = adjustment.after (machine.combine x y operation) := by
  rw [Machine.combine_eq, Machine.combine_eq]
  rfl

theorem combineWithFlag_apply (x y : UInt8) (operation : UInt8 → UInt8 → UInt8 × Bool) :
    (adjustment.apply machine).combineWithFlag x y operation
      = adjustment.after (machine.combineWithFlag x y operation) := by
  rw [Machine.combineWithFlag_eq, Machine.combineWithFlag_eq]
  rfl

theorem drawSprite_apply (x y height : UInt8) :
    (adjustment.apply machine).drawSprite x y height
      = adjustment.after (machine.drawSprite x y height) := by
  simp only [Machine.drawSprite, Machine.setRegister_eq, after_bind, ok_bind, pure_eq_ok, after_ok]
  rfl

/-- An instruction that uses none of the parts that are adjusted does the same before and
after. -/
theorem execute_apply {instruction : Instruction} (hunused : adjustment.UnusedBy instruction) :
    (adjustment.apply machine).execute instruction
      = adjustment.after (machine.execute instruction) := by
  cases instruction
  case clearScreen | jump | setIndex => rfl
  case addByte | copy | or | and | xor =>
    simp only [Machine.execute]
    exact combine_apply ..
  case add | subtract | subtractFrom | shiftRight | shiftLeft =>
    simp only [Machine.execute]
    exact combineWithFlag_apply ..
  case draw x y height => exact drawSprite_apply x y height
  case skipIfByte | skipUnlessByte | skipIfEqual | skipUnlessEqual | setByte =>
    simp only [Machine.execute, Machine.skipWhen, Machine.register_eq, Machine.setRegister_eq,
      ok_bind, pure_eq_ok, after_ok]
    rfl
  case random x mask =>
    obtain ⟨timers, keys, random⟩ := adjustment
    obtain rfl : random = id := hunused
    simp only [Machine.execute, Machine.setRegister_eq, ok_bind, pure_eq_ok, after_ok]
    rfl
  case readDelay | setDelay | setSound =>
    obtain ⟨timers, keys, random⟩ := adjustment
    obtain rfl : timers = id := hunused
    simp only [Machine.execute, Machine.register_eq, Machine.setRegister_eq, ok_bind, pure_eq_ok,
      after_ok]
    rfl
  case skipIfHeld | skipUnlessHeld | awaitKey =>
    obtain ⟨timers, keys, random⟩ := adjustment
    obtain rfl : keys = id := hunused
    simp only [Machine.execute, Machine.skipWhen, after_bind, pure_eq_ok, after_ok]
    rfl
  all_goals
    simp only [Machine.execute, after_bind, pure_eq_ok, after_ok]
    rfl

theorem carryOut_apply {instruction : Instruction} (hunused : adjustment.UnusedBy instruction) :
    (adjustment.apply machine).carryOut instruction
      = adjustment.after (machine.carryOut instruction) := by
  rw [Machine.carryOut, Machine.carryOut, execute_apply hunused]
  cases machine.execute instruction with
  | error crash => rfl
  | ok outcome =>
      obtain ⟨flow, changed⟩ := outcome
      cases flow with
      | error fault => rfl
      | ok flow => rfl

/-! ## Calls -/

/-- A step that uses none of the parts that are adjusted does the same before and after. -/
theorem step_apply
    (hwaiting : (adjustment.keys machine.keys).isWaiting = machine.keys.isWaiting)
    (hunused : machine.keys.isWaiting = false → adjustment.UnusedAt machine.view.word) :
    (adjustment.apply machine).answer .step = adjustment.after (machine.answer .step) := by
  have hkeys : (adjustment.apply machine).keys.isWaiting = machine.keys.isWaiting := hwaiting
  have hword : (adjustment.apply machine).word = .ok machine.view.word := machine.word_eq
  rw [Machine.answer, Machine.answer, Machine.step, Machine.step, hkeys, hword, machine.word_eq]
  cases hheld : machine.keys.isWaiting with
  | true => rfl
  | false =>
      simp only [Bool.false_eq_true, if_false, ok_bind]
      cases hdecode : decode machine.view.word with
      | none => rfl
      | some instruction => exact carryOut_apply ((hunused hheld).unusedBy hdecode)

/-- A new mask uses no other part than the keys. -/
theorem setKeys_apply (hkeys : adjustment.keys = id) (mask : KeyMask) :
    (adjustment.apply machine).answer (.setKeys mask)
      = adjustment.after (machine.answer (.setKeys mask)) := by
  have hlatch : (adjustment.apply machine).keys = machine.keys := congrFun hkeys machine.keys
  simp only [Machine.answer, Machine.setKeys, hlatch, Machine.setRegister_eq]
  obtain ⟨timers, keys, random⟩ := adjustment
  obtain rfl : keys = id := hkeys
  cases replaceMask machine.keys mask with
  | mk delivery keys =>
      cases delivery with
      | none => rfl
      | some delivered => rfl

/-- A call that does the same before and after leaves a part as it is which the adjustment
would leave as it is. -/
theorem apply_of_answer {call : Machine.Call} (hsame : adjustment.apply machine = machine)
    (hadjusted : (adjustment.apply machine).answer call = adjustment.after (machine.answer call))
    (hanswer : machine.answer call = .ok (result, next)) : adjustment.apply next = next := by
  rw [hsame, hanswer, after_ok] at hadjusted
  exact (congrArg Prod.snd (Except.ok.inj hadjusted)).symm

end Adjustment

namespace Machine

variable {machine next : Machine} {result : Except Fault Unit}

/-- A step that carries out no instruction on timers leaves the timers alone. -/
theorem timers_of_step
    (hunused : machine.keys.isWaiting = false → ¬ UsesTimers machine.view.word)
    (hstep : machine.step = .ok (result, next)) : next.timers = machine.timers := by
  have hsame : Adjustment.apply { timers := fun _ => machine.timers } machine = machine := rfl
  have hkept := Adjustment.apply_of_answer hsame (Adjustment.step_apply rfl fun hwaiting =>
    ⟨fun huses => absurd huses (hunused hwaiting), fun _ => rfl, fun _ => rfl⟩) hstep
  exact (congrArg Machine.timers hkept).symm

theorem keys_of_step (hunused : machine.keys.isWaiting = false → ¬ UsesKeys machine.view.word)
    (hstep : machine.step = .ok (result, next)) : next.keys = machine.keys := by
  have hsame : Adjustment.apply { keys := fun _ => machine.keys } machine = machine := rfl
  have hkept := Adjustment.apply_of_answer hsame (Adjustment.step_apply rfl fun hwaiting =>
    ⟨fun _ => rfl, fun huses => absurd huses (hunused hwaiting), fun _ => rfl⟩) hstep
  exact (congrArg Machine.keys hkept).symm

/-- A step that carries out no `CXNN` leaves the random generator alone. -/
theorem random_of_step (hunused : machine.keys.isWaiting = false → ¬ DrawsByte machine.view.word)
    (hstep : machine.step = .ok (result, next)) : next.random = machine.random := by
  have hsame : Adjustment.apply { random := fun _ => machine.random } machine = machine := rfl
  have hkept := Adjustment.apply_of_answer hsame (Adjustment.step_apply rfl fun hwaiting =>
    ⟨fun _ => rfl, fun _ => rfl, fun hdraws => absurd hdraws (hunused hwaiting)⟩) hstep
  exact (congrArg Machine.random hkept).symm

end Machine

end Chip8.Raw
