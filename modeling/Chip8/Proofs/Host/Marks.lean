import Chip8.Machine.Call
import Chip8.Proofs.Screen.Sprites

/-!
# Marks do not matter

Whether the screen and the flag registers are marked as changed is there for the
host alone.  Nothing the machine does depends on it, so machines that differ in
the marks only go on to differ in the marks only.
-/

namespace Chip8.Machine

/-- The machine without its marks. -/
def unmarked (machine : Machine) : Machine :=
  machine.acknowledgeScreen.acknowledgeFlags

section Marks

variable (machine : Machine)

theorem tick_unmarked : machine.unmarked.tick.unmarked = machine.tick.unmarked := rfl

theorem setKeys_unmarked (mask : KeyMask) :
    (machine.unmarked.setKeys mask).unmarked = (machine.setKeys mask).unmarked := by
  have hkeys : machine.unmarked.keys = machine.keys := rfl
  rw [setKeys, setKeys, hkeys]
  cases machine.keys.delivery? mask with
  | none => rfl
  | some delivery => rfl

/-- The mark of a screen says nothing about what a sprite does to it. -/
theorem draw_acknowledge (screen : Screen) (x y : UInt8) (sprite : List UInt8) :
    (screen.acknowledge.draw x y sprite).1.pixels = (screen.draw x y sprite).1.pixels ∧
      (screen.acknowledge.draw x y sprite).2 = (screen.draw x y sprite).2 := by
  have hflip : screen.acknowledge.flipAll false (Screen.spritePositions x.toNat y.toNat sprite)
      = _ := Screen.flipAll_dirty screen false false _
  rw [Screen.draw, Screen.draw, hflip]
  exact ⟨rfl, rfl⟩

theorem drawSprite_unmarked (x y : Register) (height : Fin 16) :
    (machine.unmarked.drawSprite x y height).unmarked
      = (machine.drawSprite x y height).unmarked := by
  obtain ⟨hpixels, hcollision⟩ := draw_acknowledge machine.screen (machine.register x)
    (machine.register y) (machine.memory.readBlock machine.index height)
  -- without marks the result depends on the pixels and on the collision alone
  exact congrArg₂ (fun pixels collision =>
    ({ machine.unmarked with
        screen := ⟨pixels, false⟩
        drawnBytes := min maxDrawnBytes (machine.drawnBytes + height) } : Machine).setRegister .vF
          (if collision = true then 1 else 0)) hpixels hcollision

/-- An instruction does the same without marks, apart from these. -/
theorem execute_unmarked (instruction : Instruction) :
    (machine.unmarked.execute instruction).map unmarked
      = (machine.execute instruction).map unmarked := by
  have hstack : machine.unmarked.stack = machine.stack := rfl
  cases instruction
  -- only a sprite reads the screen, and only the flags have a mark beside it
  case draw x y height =>
    have hdrawn := machine.drawSprite_unmarked x y height
    simp only [execute, Except.map]
    exact congrArg (fun drawn => Except.ok drawn.advance) hdrawn
  case returnToCaller =>
    simp only [execute, hstack]
    cases machine.stack.pop with
    | error fault => rfl
    | ok popped => rfl
  case call target =>
    have hcounter : machine.unmarked.counter = machine.counter := rfl
    simp only [execute, hstack, hcounter]
    cases machine.stack.push (machine.counter.offset 2) with
    | error fault => rfl
    | ok stack => rfl
  case saveFlags x =>
    have hvalues : machine.unmarked.registersUpTo x = machine.registersUpTo x := rfl
    simp only [execute, FlagRegisters.save, hvalues]
    by_cases hlength : (machine.registersUpTo x).length ≤ 8
    · simp only [if_pos hlength]
      rfl
    · simp only [if_neg hlength]
  case restoreFlags x =>
    have hbytes : machine.unmarked.flags.bytes = machine.flags.bytes := rfl
    simp only [execute, FlagRegisters.restore, hbytes]
    by_cases hcount : x.val + 1 ≤ 8
    · simp only [if_pos hcount]
      rfl
    · simp only [if_neg hcount]
  all_goals rfl

theorem step_unmarked : machine.unmarked.step.map unmarked = machine.step.map unmarked := by
  have hwaiting : machine.unmarked.isWaiting = machine.isWaiting := rfl
  have hword : machine.unmarked.word = machine.word := rfl
  rw [step, step, hwaiting, hword]
  by_cases hheld : machine.isWaiting = true
  · rw [if_pos hheld, if_pos hheld]
    rfl
  · rw [if_neg hheld, if_neg hheld]
    cases Instruction.decode? machine.word with
    | none => rfl
    | some instruction => exact machine.execute_unmarked instruction

end Marks

/-! ## Machines that differ in their marks only -/

variable {first second : Machine}

theorem tick_of_unmarked (hsame : first.unmarked = second.unmarked) :
    first.tick.unmarked = second.tick.unmarked := by
  rw [← tick_unmarked first, ← tick_unmarked second, hsame]

theorem setKeys_of_unmarked (hsame : first.unmarked = second.unmarked) (mask : KeyMask) :
    (first.setKeys mask).unmarked = (second.setKeys mask).unmarked := by
  rw [← setKeys_unmarked first, ← setKeys_unmarked second, hsame]

/-- Steps of such machines fail together, and lead to such machines. -/
theorem stepsFrom_of_unmarked (hsame : first.unmarked = second.unmarked) (done count : Nat) :
    (first.stepsFrom done count).failure = (second.stepsFrom done count).failure ∧
      (first.stepsFrom done count).machine.unmarked
        = (second.stepsFrom done count).machine.unmarked := by
  induction count generalizing first second done with
  | zero => exact ⟨rfl, hsame⟩
  | succ count ih =>
      have hstep : first.step.map unmarked = second.step.map unmarked := by
        rw [← step_unmarked first, ← step_unmarked second, hsame]
      rw [stepsFrom, stepsFrom]
      -- only one of the two failing would contradict `hstep`
      cases hfirst : first.step with
      | error fault =>
          cases hsecond : second.step with
          | error other =>
              rw [hfirst, hsecond] at hstep
              cases hstep
              exact ⟨rfl, hsame⟩
          | ok next =>
              rw [hfirst, hsecond] at hstep
              cases hstep
      | ok next =>
          cases hsecond : second.step with
          | error other =>
              rw [hfirst, hsecond] at hstep
              cases hstep
          | ok other =>
              rw [hfirst, hsecond] at hstep
              exact ih (Except.ok.inj hstep) (done + 1)

end Chip8.Machine
