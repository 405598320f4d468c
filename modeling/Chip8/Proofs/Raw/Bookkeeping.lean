import Chip8.Proofs.Host.Marks
import Chip8.Proofs.Raw.Drawings
import Chip8.Proofs.Raw.Events
import Chip8.Proofs.Raw.SideBySide

/-!
# What the host keeps track of

The marks and the count of drawn bytes are there for the host, and so is the sound timer,
which no instruction reads.  The slots of the stack at or above the pointer hold what is
left of earlier calls.  None of this is ever read back: two machines that differ in
nothing else are the same to every program, and stay so whatever is done to both of them,
with the host taking note of the parts of either one in between.
-/

namespace Chip8.Raw

/-! ## The stack -/

namespace CallStack

variable {first second : CallStack}

/-- A push stores over what the first free slot held. -/
theorem SameInUse.push (hsame : SameInUse first second) (address : UInt16) :
    Alike SameInUse (first.push address) (second.push address) := by
  have hpointer := hsame.pointer
  by_cases hfull : first.pointer = 16
  · rw [push_of_full hfull, push_of_full (hpointer.trans hfull)]
    exact .done _ hsame
  by_cases hfree : first.pointer < 16
  · rw [push_of_free hfree, push_of_free (hpointer ▸ hfree)]
    refine .done _ ⟨congrArg (· + 1) hpointer, ?_⟩
    intro place hplace
    by_cases htop : first.pointer = place.val
    · simp [hpointer, htop]
    · have hbelow : place.val < first.pointer := by
        simp only at hplace
        omega
      simpa [Vector.getElem_set_ne, hpointer, htop] using hsame.frames place hbelow
  · rw [CallStack.push, CallStack.push, hpointer, if_neg hfull, if_neg hfull]
    simp only [replaceAt, dif_neg hfree]
    exact .crashed _

/-- A pop takes the address of the last slot in use. -/
theorem SameInUse.pop (hsame : SameInUse first second) :
    Alike SameInUse first.pop second.pop := by
  have hpointer := hsame.pointer
  rcases Nat.eq_zero_or_pos first.pointer with hnone | hused
  · rw [pop_of_none hnone, pop_of_none (hpointer.trans hnone)]
    exact .done _ hsame
  by_cases htop : first.pointer - 1 < 16
  · have haddress : second.frames[first.pointer - 1] = first.frames[first.pointer - 1] :=
      hsame.frames ⟨first.pointer - 1, htop⟩ (by simp only; omega)
    rw [pop_of_used hused htop, pop_of_used (hpointer ▸ hused) (hpointer ▸ htop)]
    simp only [hpointer, haddress]
    refine .done _ ⟨rfl, ?_⟩
    intro place hplace
    exact hsame.frames place (by simp only at hplace; omega)
  · rw [CallStack.pop, CallStack.pop, hpointer, if_neg hused.ne', if_neg hused.ne',
      oneLess_eq hused]
    simp only [ok_bind, entryAt, dif_neg htop]
    exact .crashed _

end CallStack

/-! ## The screen -/

/-- What a sprite does to the bytes of a screen does not depend on the mark. -/
theorem FrameBuffer.bytes_of_draw {first second drawn other : FrameBuffer}
    {collision found : Bool} (hbytes : second.bytes = first.bytes) {x y : UInt8}
    {sprite : List UInt8} (hdrawn : (drawn.view, collision) = first.view.draw x y sprite)
    (hother : (other.view, found) = second.view.draw x y sprite) :
    other.bytes = drawn.bytes ∧ found = collision := by
  have hscreen : second.view.acknowledge = first.view.acknowledge :=
    congrArg (fun bytes => (FrameBuffer.mk bytes false).view) hbytes
  obtain ⟨hpixels, hcollision⟩ := Chip8.Machine.draw_acknowledge first.view x y sprite
  obtain ⟨hpixels', hcollision'⟩ := Chip8.Machine.draw_acknowledge second.view x y sprite
  rw [← hdrawn] at hpixels hcollision
  rw [← hother, hscreen] at hpixels' hcollision'
  exact ⟨bytes_eq_of_pixels (hpixels'.symm.trans hpixels), hcollision'.symm.trans hcollision⟩

/-! ## Machines and events -/

/-- The machines differ at most in what only the host looks at, and in the slots of the
stack that are not in use. -/
structure Machine.SameToProgram (first second : Machine) : Prop where
  memory : second.memory = first.memory
  registers : second.registers = first.registers
  counter : second.counter = first.counter
  index : second.index = first.index
  stack : first.stack.SameInUse second.stack
  delay : second.timers.delay = first.timers.delay
  screen : second.display.bytes = first.display.bytes
  flags : second.flags.bytes = first.flags.bytes
  keys : second.keys = first.keys
  random : second.random = first.random

/-- The same was done with the same result, and the machines are the same to the program
afterwards. -/
structure Event.SameToProgram (first second : Event) : Prop where
  call : second.call = first.call
  result : second.result = first.result
  after : first.after.SameToProgram second.after

namespace Machine

variable {machine first second : Machine} {call : Machine.Call} {calls : List Machine.Call}

theorem SameToProgram.refl (machine : Machine) : SameToProgram machine machine :=
  ⟨rfl, rfl, rfl, rfl, .refl _, rfl, rfl, rfl, rfl, rfl⟩

theorem SameToProgram.symm (hsame : SameToProgram first second) : SameToProgram second first :=
  ⟨hsame.memory.symm, hsame.registers.symm, hsame.counter.symm, hsame.index.symm,
    hsame.stack.symm, hsame.delay.symm, hsame.screen.symm, hsame.flags.symm, hsame.keys.symm,
    hsame.random.symm⟩

theorem SameToProgram.trans {third : Machine} (hfirst : SameToProgram first second)
    (hsecond : SameToProgram second third) : SameToProgram first third :=
  ⟨hsecond.memory.trans hfirst.memory, hsecond.registers.trans hfirst.registers,
    hsecond.counter.trans hfirst.counter, hsecond.index.trans hfirst.index,
    hfirst.stack.trans hsecond.stack, hsecond.delay.trans hfirst.delay,
    hsecond.screen.trans hfirst.screen, hsecond.flags.trans hfirst.flags,
    hsecond.keys.trans hfirst.keys, hsecond.random.trans hfirst.random⟩

theorem frame_sameToProgram : Frame SameToProgram where
  registers := SameToProgram.registers
  counter := SameToProgram.counter
  index := SameToProgram.index
  keys := SameToProgram.keys
  random := SameToProgram.random
  delay := SameToProgram.delay
  withRegisters hsame _ := { hsame with registers := rfl }
  withCounter hsame _ := { hsame with counter := rfl }
  withIndex hsame _ := { hsame with index := rfl }
  withKeys hsame _ := { hsame with keys := rfl }
  withRandom hsame _ := { hsame with random := rfl }
  withDelay hsame _ := { hsame with delay := rfl }
  withSound hsame _ := { hsame with }

/-! ## One call -/

/-- No instruction looks at what only the host does. -/
theorem SameToProgram.execute (hsame : SameToProgram first second)
    (instruction : Chip8.Instruction) :
    Alike SameToProgram (first.execute (stored instruction))
      (second.execute (stored instruction)) := by
  have hregister := frame_sameToProgram.register hsame
  have hfirst : ∀ values, (second.view.setFirstRegisters values).registers
      = (first.view.setFirstRegisters values).registers := fun values =>
    congrArg (fun registers : Vector UInt8 16 =>
      Vector.ofFn fun x => values.getD x registers[x]) hsame.registers
  have hvalues : ∀ x, second.view.registersUpTo x = first.view.registersUpTo x := fun x =>
    congrArg (fun registers : Vector UInt8 16 => registers.toList.take (x.val + 1)) hsame.registers
  cases instruction
  case clearScreen => exact .done _ { hsame with screen := rfl }
  case returnToCaller =>
    exact hsame.stack.pop.bind fun _ _ _ hstack => .done _ { hsame with stack := hstack }
  case call target =>
    simp only [stored, InstructionForm.map, Machine.execute, hsame.counter]
    refine (hsame.stack.push _).bind fun _ _ _ hstack => ?_
    exact .done _ { hsame with counter := rfl, stack := hstack }
  case draw x y height =>
    obtain ⟨drawn, collision, hdrawn, hview⟩ := drawSprite_eq first x y height
    obtain ⟨other, found, hother, hotherView⟩ := drawSprite_eq second x y height
    have hmemory : second.view.memory = first.view.memory := hsame.memory
    have hindex : second.view.index = first.view.index := congrArg addressOf hsame.index
    rw [hregister, hregister, hmemory, hindex] at hotherView
    obtain ⟨hbytes, rfl⟩ := FrameBuffer.bytes_of_draw hsame.screen hview hotherView
    have hshown : SameToProgram { first with display := drawn } { second with display := other } :=
      { hsame with screen := hbytes }
    simp only [stored, InstructionForm.map, Machine.execute, hdrawn, hother]
    exact .done _ { frame_sameToProgram.withRegister hshown .vF _ with }
  case storeDigits x =>
    rw [execute_storeDigits, execute_storeDigits, hregister, hsame.memory, hsame.index]
    exact .done _ { hsame with memory := rfl, index := rfl }
  case storeRegisters x =>
    rw [execute_storeRegisters, execute_storeRegisters, hvalues, hsame.memory, hsame.index]
    exact .done _ { hsame with memory := rfl, index := rfl }
  case loadRegisters x =>
    rw [execute_loadRegisters, execute_loadRegisters, hfirst, hsame.memory, hsame.index]
    exact .done _ { hsame with memory := rfl, registers := rfl, index := rfl }
  case saveFlags x =>
    have hsave : ∀ values, second.flags.save values = first.flags.save values := by
      intro values
      rw [FlagRegisters.save, FlagRegisters.save, hsame.flags]
    rw [execute_saveFlags, execute_saveFlags, hvalues, hsave]
    cases first.flags.save (first.view.registersUpTo x) with
    | error fault => exact .done _ hsame
    | ok flags => exact .done _ { hsame with flags := rfl }
  case restoreFlags x =>
    have hrestore : second.flags.restore (x.val + 1) = first.flags.restore (x.val + 1) := by
      rw [FlagRegisters.restore, FlagRegisters.restore, hsame.flags]
    rw [execute_restoreFlags, execute_restoreFlags, hrestore]
    cases first.flags.restore (x.val + 1) with
    | error fault => exact .done _ hsame
    | ok values => exact .done _ { hsame with registers := hfirst values }
  all_goals exact frame_sameToProgram.execute hsame trivial

theorem SameToProgram.step (hsame : SameToProgram first second) :
    Alike SameToProgram first.step second.step := by
  have hword : second.view.word = first.view.word := by
    simp only [Chip8.Machine.word, view, hsame.memory, hsame.counter]
  exact frame_sameToProgram.step hsame frame_sameToProgram (fun _ => hword) (fun _ => hsame)
    fun instruction _ _ => hsame.execute instruction

/-- What a program takes part in: steps, ticks and new masks.  The other calls but a reset
are notes of the host. -/
def drives : Machine.Call → Bool
  | .step | .tick | .setKeys _ => true
  | _ => false

/-- A call in which the program takes part does the same to machines that are the same to
it. -/
theorem SameToProgram.answer (hsame : SameToProgram first second) (hdrives : drives call = true) :
    Alike SameToProgram (first.answer call) (second.answer call) := by
  cases call with
  | step => exact hsame.step
  | tick => exact .done _ { hsame with delay := congrArg Timers.countDown hsame.delay }
  | setKeys mask => exact frame_sameToProgram.answer_setKeys hsame mask
  | acknowledgeScreen | acknowledgeFlags | resetDrawnBytes | reset => contradiction

/-- A note of the host makes no difference to the program. -/
theorem sameToProgram_of_note (hnote : ¬ drives call = true)
    (hreset : ∀ program seed initialFlags, call ≠ .reset program seed initialFlags) :
    ∃ next, machine.answer call = .ok (.ok (), next) ∧ SameToProgram machine next := by
  cases call with
  | acknowledgeScreen => exact ⟨_, rfl, { SameToProgram.refl machine with screen := rfl }⟩
  | acknowledgeFlags => exact ⟨_, rfl, { SameToProgram.refl machine with flags := rfl }⟩
  | resetDrawnBytes => exact ⟨_, rfl, { SameToProgram.refl machine with }⟩
  | reset program seed initialFlags => exact absurd rfl (hreset program seed initialFlags)
  | step | tick | setKeys => exact absurd rfl hnote

/-! ## Several calls -/

/-- The events in which the program takes part. -/
def driving (events : List Event) : List Event :=
  events.filter fun event => drives event.call

theorem driving_cons_of_drives {event : Event} (hdrives : drives event.call = true)
    (events : List Event) : driving (event :: events) = event :: driving events :=
  List.filter_cons_of_pos hdrives

theorem driving_cons_of_note {event : Event} (hnote : ¬ drives event.call = true)
    (events : List Event) : driving (event :: events) = driving events :=
  List.filter_cons_of_neg hnote

theorem driving_append (events others : List Event) :
    driving (events ++ others) = driving events ++ driving others :=
  List.filter_append ..

/-- Notes of the host alone are no events for the program. -/
theorem run_of_notes (machine : Machine) (hcalls : NoReset calls)
    (hnotes : ∀ call ∈ calls, ¬ drives call = true) :
    ∃ events last, machine.run calls = .ok (events, last) ∧ SameToProgram machine last ∧
      driving events = [] := by
  induction calls generalizing machine with
  | nil => exact ⟨[], machine, rfl, .refl machine, rfl⟩
  | cons call rest ih =>
      have hnote := hnotes call List.mem_cons_self
      obtain ⟨next, hanswer, hnext⟩ := sameToProgram_of_note hnote (hcalls call List.mem_cons_self)
      obtain ⟨events, last, hrun, hlast, hnone⟩ :=
        ih next hcalls.tail fun later hlater => hnotes later (List.mem_cons_of_mem call hlater)
      refine ⟨_, last, run_cons hanswer hrun, hnext.trans hlast, ?_⟩
      rw [driving_cons_of_note hnote, hnone]

/-- What drives both machines does the same to them, and notes in between do not matter. -/
theorem SameToProgram.run (hsame : SameToProgram first second) {others : List Machine.Call}
    (hcalls : NoReset calls) (hothers : NoReset others)
    (hdrives : calls.filter drives = others.filter drives) {events : List Event} {last : Machine}
    (hrun : first.run calls = .ok (events, last)) :
    ∃ otherEvents otherLast, second.run others = .ok (otherEvents, otherLast) ∧
      SameToProgram last otherLast ∧
      List.Forall₂ Event.SameToProgram (driving events) (driving otherEvents) := by
  induction calls generalizing first second others events with
  | nil =>
      cases hrun
      obtain ⟨noted, middle, hnoted, hmiddle, hnone⟩ :=
        run_of_notes second hothers (List.filter_eq_nil_iff.mp hdrives.symm)
      refine ⟨noted, middle, hnoted, hsame.trans hmiddle, ?_⟩
      rw [hnone]
      exact .nil
  | cons call rest ih =>
      obtain ⟨result, next, later, hanswer, hlater, rfl⟩ := run_cons_cases hrun
      by_cases hcall : drives call = true
      · -- the other machine gets to the same call after some notes
        rw [List.filter_cons_of_pos hcall] at hdrives
        obtain ⟨notes, remaining, rfl, hnotes, -, hremaining⟩ :=
          List.filter_eq_cons_iff.mp hdrives.symm
        obtain ⟨hnotesOnly, hothersLater⟩ := hothers.of_append
        obtain ⟨noted, middle, hnoted, hmiddle, hnone⟩ := run_of_notes second hnotesOnly hnotes
        have halike := (hsame.trans hmiddle).answer hcall
        rw [hanswer] at halike
        generalize hother : middle.answer call = attempt at halike
        cases halike with
        | done result hnext =>
            obtain ⟨otherEvents, otherLast, hotherRun, hlast, hevents⟩ :=
              ih hnext hcalls.tail hothersLater.tail hremaining.symm hlater
            refine ⟨_, otherLast,
              run_append_iff.mpr ⟨noted, middle, _, hnoted, run_cons hother hotherRun, rfl⟩,
              hlast, ?_⟩
            rw [driving_append, hnone, List.nil_append, driving_cons_of_drives hcall,
              driving_cons_of_drives hcall]
            exact .cons ⟨rfl, rfl, hnext⟩ hevents
      · obtain ⟨noted, hnoted, hnext⟩ :=
          sameToProgram_of_note hcall (hcalls call List.mem_cons_self)
        rw [hanswer] at hnoted
        cases hnoted
        rw [List.filter_cons_of_neg hcall] at hdrives
        rw [driving_cons_of_note hcall]
        exact ih (hnext.symm.trans hsame) hcalls.tail hothers hdrives hlater

/-- What only the host looks at never influences a program.  Two machines that differ at
most in this and in the free slots of the stack give the same results when they are
stepped and ticked and their keys are set in the same way, and are the same to the program
after each of these calls, wherever the host takes note of parts of them or resets their
counts of drawn bytes.  Well-formed machines get through all of it. -/
theorem bookkeeping_is_invisible (hsame : first.SameToProgram second)
    {calls others : List Machine.Call} (hcalls : NoReset calls) (hothers : NoReset others)
    (hdrives : calls.filter drives = others.filter drives) :
    (∀ events last, first.run calls = .ok (events, last) →
      ∃ otherEvents otherLast, second.run others = .ok (otherEvents, otherLast) ∧
        last.SameToProgram otherLast ∧
        List.Forall₂ Event.SameToProgram (driving events) (driving otherEvents)) ∧
      (first.WellFormed → ∃ events last, first.run calls = .ok (events, last)) := by
  refine ⟨?_, ?_⟩
  · intro events last hrun
    exact hsame.run hcalls hothers hdrives hrun
  · intro hfirst
    obtain ⟨events, last, hrun, -⟩ := exists_run hfirst calls
    exact ⟨events, last, hrun⟩

/-- A machine with bytes drawn, a tone and an old address in each slot of its stack, next
to a fresh one, calls a subroutine and returns from it. -/
theorem bookkeeping_is_invisible_call : ∃ (fresh second last otherLast : Machine)
    (events otherEvents : List Event),
    load [0x22, 0x04, 0x00, 0xE0, 0x00, 0xEE] 0 0 = .ok (.ok fresh) ∧
      second.drawnBytes = 7 ∧ second.timers.sound = 9 ∧
      second.stack.frames = Vector.replicate 16 0x0ABC ∧
      fresh.run [.step, .acknowledgeFlags, .step, .tick, .step] = .ok (events, last) ∧
      second.run [.step, .step, .resetDrawnBytes, .acknowledgeScreen, .tick, .step]
        = .ok (otherEvents, otherLast) ∧
      last.SameToProgram otherLast := by
  have hlength : ([0x22, 0x04, 0x00, 0xE0, 0x00, 0xEE] : List UInt8).length
      ≤ Memory.maxProgramLength := by decide
  obtain ⟨fresh, hload, hfresh, -⟩ := load_of_length_le hlength 0 0
  have hsame : fresh.SameToProgram { fresh with
      stack := { fresh.stack with frames := Vector.replicate 16 0x0ABC }
      timers := { fresh.timers with sound := 9 }
      drawnBytes := 7 } := by
    refine { SameToProgram.refl fresh with stack := ⟨rfl, ?_⟩ }
    intro place hplace
    rw [pointer_of_load hload] at hplace
    exact absurd hplace (Nat.not_lt_zero _)
  obtain ⟨hruns, hexists⟩ := bookkeeping_is_invisible hsame
    (show NoReset [.step, .acknowledgeFlags, .step, .tick, .step] by simp [NoReset])
    (show NoReset [.step, .step, .resetDrawnBytes, .acknowledgeScreen, .tick, .step] by
      simp [NoReset]) rfl
  obtain ⟨events, last, hrun⟩ := hexists hfresh
  obtain ⟨otherEvents, otherLast, hother, hlast, -⟩ := hruns events last hrun
  exact ⟨fresh, _, last, otherLast, events, otherEvents, hload, rfl, rfl, rfl, hrun, hother, hlast⟩

end Machine

end Chip8.Raw
