import Chip8.Proofs.Machine.Executing
import Chip8.Proofs.Screen.Sprites

/-!
# What sets the marks

The screen is marked as changed by `00E0` and by a `DXYN` whose sprite is not
blank, the flag registers by a successful `FX75`.  No other instruction changes
the screen or the flags, and these never fail.  Over a number of steps, a part
of the machine whose mark nothing sets stays as it was.
-/

namespace Chip8

namespace Screen

theorem rowPositions_zero (x y : Nat) : rowPositions x y 0 = [] := by
  simp [rowPositions]

/-- A blank sprite leaves the screen as it was, mark included. -/
theorem draw_of_blank (screen : Screen) (x y : UInt8) {sprite : List UInt8}
    (hblank : ∀ byte ∈ sprite, byte = 0) : screen.draw x y sprite = (screen, false) := by
  have hpositions : spritePositions x.toNat y.toNat sprite = [] := by
    rw [spritePositions, List.flatMap_eq_nil_iff]
    rintro ⟨byte, down⟩ hbyte
    have hzero : byte = 0 := hblank byte (List.fst_mem_of_mem_zipIdx hbyte)
    rw [hzero]
    exact rowPositions_zero _ _
  have hany : sprite.any (· ≠ 0) = false := by simpa using hblank
  rw [draw, hpositions, hany]
  simp [flipAll]

theorem dirty_draw_of_mem (screen : Screen) (x y : UInt8) {sprite : List UInt8} {byte : UInt8}
    (hbyte : byte ∈ sprite) (hne : byte ≠ 0) : (screen.draw x y sprite).1.dirty = true := by
  have hany : sprite.any (· ≠ 0) = true := by
    rw [List.any_eq_true]
    exact ⟨byte, hbyte, by simpa using hne⟩
  rw [draw, hany]
  simp

end Screen

theorem FlagRegisters.dirty_of_save {flags saved : FlagRegisters} {values : List UInt8}
    (hsave : flags.save values = .ok saved) : values.length ≤ 8 ∧ saved.dirty = true := by
  unfold save at hsave
  split at hsave
  · next hlength =>
    cases hsave
    exact ⟨hlength, rfl⟩
  · contradiction

namespace Machine

variable {machine next : Machine}

/-- A machine starts with a blank screen, and with no mark. -/
theorem unmarked_of_load {program : List UInt8} {seed initialFlags : UInt64}
    (hload : load program seed initialFlags = .ok machine) :
    machine.screen = .blank ∧ machine.flags = .ofPacked initialFlags := by
  obtain ⟨memory, rfl⟩ := eq_of_load hload
  exact ⟨rfl, rfl⟩

/-! ## The instructions that set them -/

/-- The instruction clears the screen, or draws a sprite that is not blank. -/
def PaintsBy (machine : Machine) : Instruction → Prop
  | .clearScreen => True
  | .draw _ _ height => ∃ byte ∈ machine.memory.readBlock machine.index height, byte ≠ 0
  | _ => False

/-- The instruction stores registers in the flags, and there are enough flags. -/
def StoresBy : Instruction → Prop
  | .saveFlags x => x.val ≤ 7
  | _ => False

/-- The next step carries out an instruction of a kind. -/
def NextIs (machine : Machine) (kind : Instruction → Prop) : Prop :=
  machine.isWaiting = false ∧
    ∃ instruction, Instruction.decode? machine.word = some instruction ∧ kind instruction

/-- The next step is a `00E0`, or a `DXYN` whose sprite has a byte that is not zero. -/
def Paints (machine : Machine) : Prop :=
  machine.NextIs machine.PaintsBy

/-- The next step is an `FX75` that succeeds. -/
def StoresFlags (machine : Machine) : Prop :=
  machine.NextIs StoresBy

instance : DecidablePred StoresBy := by
  intro instruction
  unfold StoresBy
  split
  · infer_instance
  · infer_instance

instance (kind : Instruction → Prop) [DecidablePred kind] : Decidable (machine.NextIs kind) :=
  inferInstanceAs
    (Decidable (_ ∧ ∃ instruction ∈ Instruction.decode? machine.word, kind instruction))

instance : Decidable machine.StoresFlags :=
  inferInstanceAs (Decidable (machine.NextIs StoresBy))

/-! ## One instruction -/

/-- What an instruction does to the screen and to the flags. -/
structure Marking (machine : Machine) (instruction : Instruction) (next : Machine) : Prop where
  screen : (machine.PaintsBy instruction ∧ next.screen.dirty = true) ∨
    (¬ machine.PaintsBy instruction ∧ next.screen = machine.screen)
  flags : (StoresBy instruction ∧ next.flags.dirty = true) ∨
    (¬ StoresBy instruction ∧ next.flags = machine.flags)

theorem Marking.of_same {instruction : Instruction} (hpaints : ¬ machine.PaintsBy instruction)
    (hstores : ¬ StoresBy instruction) (hscreen : next.screen = machine.screen)
    (hflags : next.flags = machine.flags) : machine.Marking instruction next :=
  ⟨.inr ⟨hpaints, hscreen⟩, .inr ⟨hstores, hflags⟩⟩

theorem marking_of_execute {instruction : Instruction}
    (hexecute : machine.execute instruction = .ok next) : machine.Marking instruction next := by
  cases instruction
  case clearScreen =>
    cases hexecute
    exact ⟨.inl ⟨trivial, rfl⟩, .inr ⟨id, rfl⟩⟩
  case draw x y height =>
    cases hexecute
    refine ⟨?_, .inr ⟨id, rfl⟩⟩
    by_cases hpaints : machine.PaintsBy (.draw x y height)
    · obtain ⟨byte, hbyte, hne⟩ := hpaints
      exact .inl ⟨⟨byte, hbyte, hne⟩, Screen.dirty_draw_of_mem _ _ _ hbyte hne⟩
    · have hblank : ∀ byte ∈ machine.memory.readBlock machine.index height, byte = 0 := by
        simpa [PaintsBy] using hpaints
      exact .inr ⟨hpaints, congrArg Prod.fst (machine.screen.draw_of_blank _ _ hblank)⟩
  case saveFlags x =>
    obtain ⟨saved, hsave, rfl⟩ := execute_saveFlags_ok.mp hexecute
    obtain ⟨hlength, hdirty⟩ := FlagRegisters.dirty_of_save hsave
    rw [length_registersUpTo, Nat.succ_le_succ_iff] at hlength
    exact ⟨.inr ⟨id, rfl⟩, .inl ⟨hlength, hdirty⟩⟩
  case restoreFlags x =>
    obtain ⟨registers, rfl⟩ := registers_of_restoreFlags hexecute
    exact .of_same id id rfl rfl
  case loadRegisters x =>
    obtain ⟨registers, rfl⟩ := registers_of_loadRegisters hexecute
    exact .of_same id id rfl rfl
  case returnToCaller =>
    obtain ⟨popped, -, rfl⟩ := execute_returnToCaller_ok.mp hexecute
    exact .of_same id id rfl rfl
  case call target =>
    obtain ⟨pushed, -, rfl⟩ := execute_call_ok.mp hexecute
    exact .of_same id id rfl rfl
  -- all others change neither the screen nor the flags
  all_goals
    cases hexecute
    exact .of_same id id rfl rfl

/-- An instruction that sets a mark does not fail. -/
theorem execute_of_marks {instruction : Instruction}
    (hmarks : machine.PaintsBy instruction ∨ StoresBy instruction) (fault : Fault) :
    machine.execute instruction ≠ .error fault := by
  rcases hmarks with hpaints | hstores
  · cases instruction
    case clearScreen => simp [execute]
    case draw x y height => simp [execute]
    all_goals exact hpaints.elim
  · cases instruction
    case saveFlags x =>
      intro hexecute
      have hsave : machine.flags.save (machine.registersUpTo x) = .error fault := by
        rw [execute] at hexecute
        cases hsave : machine.flags.save (machine.registersUpTo x) with
        | error other => simpa [hsave] using hexecute
        | ok saved => simp [hsave] at hexecute
      obtain ⟨-, hlength⟩ := FlagRegisters.save_error_iff.mp hsave
      rw [length_registersUpTo] at hlength
      exact absurd (Nat.lt_of_succ_lt_succ hlength) (Nat.not_lt.mpr hstores)
    all_goals exact hstores.elim

/-! ## One step -/

/-- A step of a kind that the instruction decides, unless the machine waits for a key. -/
theorem nextIs_iff_of_step (hstep : machine.step = .ok next) :
    ((∀ kind, ¬ machine.NextIs kind) ∧ next = machine) ∨
      ∃ instruction, machine.execute instruction = .ok next ∧
        ∀ kind, machine.NextIs kind ↔ kind instruction := by
  rcases step_cases hstep with ⟨hwaiting, rfl⟩ | ⟨hwaiting, instruction, hdecode, hexecute⟩
  · refine .inl ⟨?_, rfl⟩
    intro kind hkind
    rw [hkind.1] at hwaiting
    contradiction
  · refine .inr ⟨instruction, hexecute, ?_⟩
    intro kind
    simp [NextIs, hwaiting, hdecode]

/-- What the next step of a kind carries out. -/
theorem NextIs.step_eq {kind : Instruction → Prop} (hnext : machine.NextIs kind) :
    ∃ instruction, kind instruction ∧ machine.step = machine.execute instruction := by
  obtain ⟨hwaiting, instruction, hdecode, hkind⟩ := hnext
  exact ⟨instruction, hkind, by simp [step, hwaiting, hdecode]⟩

/-- A part of the machine, with a mark for the host that says whether it may have
changed.  Only some steps touch the part; these set its mark, and succeed. -/
structure Mark (Part : Type) where
  part : Machine → Part
  isSet : Part → Bool
  /-- The next step sets the mark. -/
  SetBy : Machine → Prop
  of_step : ∀ {machine next : Machine}, machine.step = .ok next →
    (SetBy machine ∧ isSet (part next) = true) ∨ (¬ SetBy machine ∧ part next = part machine)
  step_ne_error : ∀ {machine : Machine}, SetBy machine → ∀ fault, machine.step ≠ .error fault
  part_setKeys : ∀ (machine : Machine) mask, part (machine.setKeys mask) = part machine
  part_tick : ∀ machine : Machine, part machine.tick = part machine

theorem setKeys_same (machine : Machine) (mask : KeyMask) :
    (machine.setKeys mask).screen = machine.screen ∧
      (machine.setKeys mask).flags = machine.flags := by
  unfold setKeys
  split
  · exact ⟨rfl, rfl⟩
  · exact ⟨rfl, rfl⟩

/-- The screen is marked by what paints on it. -/
def screenMark : Mark Screen where
  part := screen
  isSet := Screen.dirty
  SetBy := Paints
  of_step := by
    intro machine next hstep
    rcases nextIs_iff_of_step hstep with ⟨hnone, rfl⟩ | ⟨instruction, hexecute, hkind⟩
    · exact .inr ⟨hnone _, rfl⟩
    · rw [Paints, hkind]
      exact (marking_of_execute hexecute).screen
  step_ne_error := by
    intro machine hpaints fault
    obtain ⟨instruction, hkind, hstep⟩ := NextIs.step_eq hpaints
    rw [hstep]
    exact execute_of_marks (.inl hkind) fault
  part_setKeys machine mask := (machine.setKeys_same mask).1
  part_tick _ := rfl

/-- The flag registers are marked by what is stored in them. -/
def flagsMark : Mark FlagRegisters where
  part := flags
  isSet := FlagRegisters.dirty
  SetBy := StoresFlags
  of_step := by
    intro machine next hstep
    rcases nextIs_iff_of_step hstep with ⟨hnone, rfl⟩ | ⟨instruction, hexecute, hkind⟩
    · exact .inr ⟨hnone _, rfl⟩
    · rw [StoresFlags, hkind]
      exact (marking_of_execute hexecute).flags
  step_ne_error := by
    intro machine hstores fault
    obtain ⟨instruction, hkind, hstep⟩ := NextIs.step_eq hstores
    rw [hstep]
    exact execute_of_marks (.inr hkind) fault
  part_setKeys machine mask := (machine.setKeys_same mask).2
  part_tick _ := rfl

/-! ## Several steps -/

/-- The machines whose next instruction so many steps carry out, one after the
other, or fail on.  Steps that wait for a key carry out nothing. -/
def attempts (machine : Machine) : Nat → List Machine
  | 0 => []
  | count + 1 =>
      if machine.isWaiting then []
      else machine :: match machine.step with
        | .error _ => []
        | .ok next => next.attempts count

/-- Steps set a mark if one of them does, and else leave the part as it was. -/
theorem Mark.of_stepsFrom {Part : Type} (mark : Mark Part) (machine : Machine) (done count : Nat) :
    ((∃ attempt ∈ machine.attempts count, mark.SetBy attempt) ∧
        mark.isSet (mark.part (machine.stepsFrom done count).machine) = true) ∨
      ((∀ attempt ∈ machine.attempts count, ¬ mark.SetBy attempt) ∧
        mark.part (machine.stepsFrom done count).machine = mark.part machine) := by
  induction count generalizing machine done with
  | zero => exact .inr ⟨by simp [attempts], rfl⟩
  | succ count ih =>
      by_cases hwaiting : machine.isWaiting = true
      · rw [attempts, if_pos hwaiting, stepsFrom_of_waiting hwaiting]
        exact .inr ⟨by simp, rfl⟩
      · rw [attempts, if_neg hwaiting, stepsFrom]
        cases hstep : machine.step with
        | error fault =>
            have hnot : ¬ mark.SetBy machine := fun hset => mark.step_ne_error hset fault hstep
            exact .inr ⟨by simpa using hnot, rfl⟩
        | ok next =>
            simp only [List.mem_cons, exists_eq_or_imp, forall_eq_or_imp]
            -- once set, the mark stays: a part that is left alone keeps its mark
            rcases ih next (done + 1) with ⟨hlater, hset⟩ | ⟨hnone, hsame⟩
            · exact .inl ⟨.inr hlater, hset⟩
            · rcases mark.of_step hstep with ⟨hfirst, hset⟩ | ⟨hnot, hpart⟩
              · exact .inl ⟨.inl hfirst, hsame ▸ hset⟩
              · exact .inr ⟨⟨hnot, hnone⟩, hsame.trans hpart⟩

end Machine

end Chip8
