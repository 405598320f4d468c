import Chip8.Proofs.Raw.Simulation

/-!
# Two machines side by side

Machines that differ only in parts which an instruction neither looks at nor changes do
the same on it.  Most instructions look at the registers, the counter, the index, the
keys, the delay timer and the random generator, and change no more than these and the
sound timer.  A relation between machines that agree so far and go on to do so when these
parts are changed alike, a frame, is therefore kept by all of them.  What is left for
each relation are the instructions on memory, the screen, the flags and the stack.
-/

namespace Chip8.Raw

/-- Two computations end alike: both crash, or both yield the same result, and what they
leave belongs together. -/
inductive Alike {Result First Second : Type} (Related : First → Second → Prop) :
    Checked (Result × First) → Checked (Result × Second) → Prop where
  | crashed (crash : Crash) : Alike Related (.error crash) (.error crash)
  | done (result : Result) {first : First} {second : Second} (hrelated : Related first second) :
      Alike Related (.ok (result, first)) (.ok (result, second))

theorem Alike.refl {Result State : Type} (computation : Checked (Result × State)) :
    Alike Eq computation computation := by
  cases computation with
  | error crash => exact .crashed crash
  | ok outcome => exact .done _ rfl

theorem Alike.mono {Result First Second : Type} {Related Weaker : First → Second → Prop}
    {first : Checked (Result × First)} {second : Checked (Result × Second)}
    (halike : Alike Related first second)
    (hweaker : ∀ left right, Related left right → Weaker left right) :
    Alike Weaker first second := by
  cases halike with
  | crashed crash => exact .crashed crash
  | done result hrelated => exact .done result (hweaker _ _ hrelated)

theorem Alike.bind {Result Later First Second Third Fourth : Type}
    {Related : First → Second → Prop} {LaterRelated : Third → Fourth → Prop}
    {first : Checked (Result × First)} {second : Checked (Result × Second)}
    {next : Result × First → Checked (Later × Third)}
    {other : Result × Second → Checked (Later × Fourth)} (halike : Alike Related first second)
    (hnext : ∀ result left right, Related left right →
      Alike LaterRelated (next (result, left)) (other (result, right))) :
    Alike LaterRelated (first >>= next) (second >>= other) := by
  cases halike with
  | crashed crash => exact .crashed crash
  | done result hrelated => exact hnext result _ _ hrelated

namespace Machine

/-- The instruction looks at registers, the counter, the index, the keys, the delay timer
and the random generator at most, and changes none but these and the sound timer. -/
def OnRegisters : Chip8.Instruction → Prop
  | .clearScreen | .returnToCaller | .call _ | .draw _ _ _ | .storeDigits _
  | .storeRegisters _ | .loadRegisters _ | .saveFlags _ | .restoreFlags _ => False
  | _ => True

/-- Machines that are related agree on what most instructions look at, and stay related
when it is changed on both of them. -/
structure Frame (Related : Machine → Machine → Prop) : Prop where
  registers : ∀ {first second}, Related first second → second.registers = first.registers
  counter : ∀ {first second}, Related first second → second.counter = first.counter
  index : ∀ {first second}, Related first second → second.index = first.index
  keys : ∀ {first second}, Related first second → second.keys = first.keys
  random : ∀ {first second}, Related first second → second.random = first.random
  delay : ∀ {first second}, Related first second → second.timers.delay = first.timers.delay
  withRegisters : ∀ {first second}, Related first second → ∀ registers,
    Related { first with registers := registers } { second with registers := registers }
  withCounter : ∀ {first second}, Related first second → ∀ counter,
    Related { first with counter := counter } { second with counter := counter }
  withIndex : ∀ {first second}, Related first second → ∀ index,
    Related { first with index := index } { second with index := index }
  withKeys : ∀ {first second}, Related first second → ∀ keys,
    Related { first with keys := keys } { second with keys := keys }
  withRandom : ∀ {first second}, Related first second → ∀ random,
    Related { first with random := random } { second with random := random }
  withDelay : ∀ {first second}, Related first second → ∀ delay,
    Related { first with timers := { first.timers with delay := delay } }
      { second with timers := { second.timers with delay := delay } }
  withSound : ∀ {first second}, Related first second → ∀ sound,
    Related { first with timers := { first.timers with sound := sound } }
      { second with timers := { second.timers with sound := sound } }

section Frame

variable {Related : Machine → Machine → Prop} {first second : Machine}
  (hframe : Frame Related) (hrelated : Related first second)

include hframe hrelated

/-! ## Registers -/

theorem Frame.register (x : Register) : second.view.register x = first.view.register x :=
  congrArg (fun registers : Vector UInt8 16 => registers[x]) (hframe.registers hrelated)

theorem Frame.withRegister (x : Register) (value : UInt8) :
    Related (first.withRegister x value) (second.withRegister x value) := by
  have hregisters : (second.view.setRegister x value).registers
      = (first.view.setRegister x value).registers :=
    congrArg (fun registers : Vector UInt8 16 => registers.set x value)
      (hframe.registers hrelated)
  rw [Machine.withRegister, Machine.withRegister, hregisters]
  exact hframe.withRegisters hrelated _

theorem Frame.setRegister (x : Register) (value : UInt8) :
    Alike Related (do return (Except.ok Flow.next, ← first.setRegister (UInt8.ofNat x.val) value))
      (do return (Except.ok Flow.next, ← second.setRegister (UInt8.ofNat x.val) value)
        : Checked (Attempt Flow)) := by
  simp only [setRegister_eq, ok_bind, pure_eq_ok]
  exact .done _ (hframe.withRegister hrelated _ value)

theorem Frame.combine (x y : Register) (operation : UInt8 → UInt8 → UInt8) :
    Alike Related (first.combine (UInt8.ofNat x.val) (UInt8.ofNat y.val) operation)
      (second.combine (UInt8.ofNat x.val) (UInt8.ofNat y.val) operation) := by
  rw [combine_eq, combine_eq, hframe.register hrelated, hframe.register hrelated]
  exact .done _ (hframe.withRegister hrelated _ _)

theorem Frame.combineWithFlag (x y : Register) (operation : UInt8 → UInt8 → UInt8 × Bool) :
    Alike Related (first.combineWithFlag (UInt8.ofNat x.val) (UInt8.ofNat y.val) operation)
      (second.combineWithFlag (UInt8.ofNat x.val) (UInt8.ofNat y.val) operation) := by
  rw [combineWithFlag_eq, combineWithFlag_eq, hframe.register hrelated, hframe.register hrelated]
  exact .done _ (hframe.withRegister (hframe.withRegister hrelated _ _) _ _)

/-! ## Instructions -/

/-- An instruction on registers does the same to machines that are related. -/
theorem Frame.execute {instruction : Chip8.Instruction} (hplain : OnRegisters instruction) :
    Alike Related (first.execute (stored instruction)) (second.execute (stored instruction)) := by
  have hregister := hframe.register hrelated
  have hkeys := hframe.keys hrelated
  cases instruction
  case jump target => exact .done _ hrelated
  case skipIfByte | skipUnlessByte | skipIfEqual | skipUnlessEqual =>
    simp only [stored, InstructionForm.map, Machine.execute, register_ofNat, ok_bind, hregister]
    exact .done _ hrelated
  case skipIfHeld | skipUnlessHeld =>
    simp only [stored, InstructionForm.map, Machine.execute, register_ofNat, ok_bind,
      isPressed_eq, hregister, hkeys]
    exact .done _ hrelated
  case setByte x byte => exact hframe.setRegister hrelated x byte
  case addByte | copy | or | and | xor =>
    simp only [stored, InstructionForm.map, Machine.execute]
    exact hframe.combine hrelated ..
  case add | subtract | subtractFrom | shiftRight | shiftLeft =>
    simp only [stored, InstructionForm.map, Machine.execute]
    exact hframe.combineWithFlag hrelated ..
  case setIndex target => exact .done _ (hframe.withIndex hrelated _)
  case jumpByV0 base =>
    have hzero : ∀ machine : Machine, machine.register 0 = .ok (machine.view.register .v0) :=
      fun machine => machine.register_ofNat .v0
    simp only [stored, InstructionForm.map, Machine.execute, hzero, ok_bind, hregister]
    exact .done _ hrelated
  case random x mask =>
    simp only [stored, InstructionForm.map, Machine.execute, hframe.random hrelated,
      setRegister_eq, ok_bind]
    exact .done _ (hframe.withRegister (hframe.withRandom hrelated _) _ _)
  case readDelay x =>
    simp only [stored, InstructionForm.map, Machine.execute, hframe.delay hrelated]
    exact hframe.setRegister hrelated x _
  case awaitKey x =>
    simp only [stored, InstructionForm.map, Machine.execute, hkeys]
    exact .done _ (hframe.withKeys hrelated _)
  case setDelay x =>
    simp only [stored, InstructionForm.map, Machine.execute, register_ofNat, ok_bind, hregister]
    exact .done _ (hframe.withDelay hrelated _)
  case setSound x =>
    simp only [stored, InstructionForm.map, Machine.execute, register_ofNat, ok_bind, hregister]
    exact .done _ (hframe.withSound hrelated _)
  case addToIndex x =>
    simp only [stored, InstructionForm.map, Machine.execute, register_ofNat, ok_bind, hregister,
      hframe.index hrelated]
    exact .done _ (hframe.withIndex hrelated _)
  case locateGlyph x =>
    simp only [stored, InstructionForm.map, Machine.execute, register_ofNat, ok_bind,
      glyphAddress_eq, hregister]
    exact .done _ (hframe.withIndex hrelated _)
  all_goals exact hplain.elim

/-! ## Calls -/

/-- A new mask does the same to machines that are related. -/
theorem Frame.answer_setKeys (mask : KeyMask) :
    Alike Related (first.answer (.setKeys mask)) (second.answer (.setKeys mask)) := by
  simp only [answer, setKeys, hframe.keys hrelated]
  cases replaceMask first.keys mask with
  | mk delivery keys =>
      cases delivery with
      | none => exact .done _ (hframe.withKeys hrelated keys)
      | some delivered =>
          obtain ⟨x, key⟩ := delivered
          simp only [setRegister_eq, ok_bind]
          exact .done _ (hframe.withRegister (hframe.withKeys hrelated keys) _ key)

end Frame

/-- Moving the counter keeps machines related. -/
theorem Frame.carryOut {Related : Machine → Machine → Prop} {first second : Machine}
    (hframe : Frame Related) (hcounter : second.counter = first.counter)
    {instruction : Instruction}
    (hexecute : Alike Related (first.execute instruction) (second.execute instruction)) :
    Alike Related (first.carryOut instruction) (second.carryOut instruction) := by
  refine hexecute.bind fun result left right hrelated => ?_
  cases result with
  | error fault => exact .done _ hrelated
  | ok flow =>
      rw [hcounter]
      exact .done _ (hframe.withCounter hrelated _)

/-- Machines do the same in a step if the word at the counter is the same, and so is what
the instruction at it does.  How they are related may depend on the step. -/
theorem Frame.step {Related Later : Machine → Machine → Prop} {first second : Machine}
    (hframe : Frame Related) (hrelated : Related first second) (hlater : Frame Later)
    (hword : first.keys.isWaiting = false → second.view.word = first.view.word)
    (hidle : (first.keys.isWaiting = false → Instruction.decode? first.view.word = none) →
      Later first second)
    (hexecute : ∀ instruction, first.keys.isWaiting = false →
      Instruction.decode? first.view.word = some instruction →
      Alike Later (first.execute (stored instruction)) (second.execute (stored instruction))) :
    Alike Later first.step second.step := by
  rw [Machine.step, Machine.step, hframe.keys hrelated]
  cases hwaiting : first.keys.isWaiting with
  | true => exact .done _ (hidle (by simp [hwaiting]))
  | false =>
      rw [word_eq, word_eq, hword hwaiting]
      simp only [Bool.false_eq_true, if_false, ok_bind, decode_eq]
      cases hdecode : Instruction.decode? first.view.word with
      | none => exact .done _ (hidle fun _ => hdecode)
      | some instruction =>
          exact hlater.carryOut (hframe.counter hrelated) (hexecute instruction hwaiting hdecode)

end Machine

end Chip8.Raw
