import Chip8.Device.Script
import Chip8.Device.Speaker
import Chip8.FileTable
import Chip8.Proofs.Host.Pending

/-!
# Instructions that fail

An instruction that fails while the main loop runs is the last one, and the machine
stays at it.  The run fails with it, unless the tone is on and cannot be turned off:
then that is the error of the run, and the one of the instruction is not reported.
-/

namespace Chip8

/-- Steps end where one of them fails. -/
theorem Machine.stepsFrom_of_attempt {machine attempt : Machine} {fault : Fault} {count : Nat}
    (hattempt : attempt ∈ machine.attempts count) (hstep : attempt.step = .error fault)
    (done : Nat) : (machine.stepsFrom done count).failure = some fault ∧
      (machine.stepsFrom done count).machine = attempt := by
  induction count generalizing machine done with
  | zero => simp [attempts] at hattempt
  | succ count ih =>
      rw [attempts] at hattempt
      split at hattempt
      · simp at hattempt
      · rw [stepsFrom]
        rcases List.mem_cons.mp hattempt with rfl | hlater
        · rw [hstep]
          exact ⟨rfl, rfl⟩
        · cases hfirst : machine.step with
          | error other => simp [hfirst] at hlater
          | ok next =>
              rw [hfirst] at hlater
              exact ih hlater (done + 1)

namespace Host

variable {Input Display Sound Store : Type}
variable [InputDevice Input] [DisplayDevice Display] [SoundDevice Sound] [FileStore Store]

/-- A tick ends at an instruction that fails, and has done nothing else by then. -/
theorem runTick_of_attempt {host : Host Input Display Sound Store} {attempt : Machine}
    {fault : Fault} (hattempt : attempt ∈ host.attempts) (hstep : attempt.step = .error fault) :
    host.runTick.result = .error (.engine fault attempt.counter attempt.word) ∧
      host.runTick.host.machine = attempt ∧ SameDevices host host.runTick.host := by
  rw [attempts] at hattempt
  rcases host.stepped_cases host.config.instructionsPerTick with
    ⟨error, hpoll, -⟩ | ⟨mask, hpoll, hmachine, hresult⟩
  · simp [hpoll] at hattempt
  · rw [hpoll] at hattempt
    obtain ⟨hfailure, hlast⟩ := Machine.stepsFrom_of_attempt hattempt hstep 0
    rw [hlast] at hmachine
    rw [hfailure, hmachine] at hresult
    have hcounted : host.counted = host.stepped host.config.instructionsPerTick :=
      andThen_of_error hresult
    have htick : host.runTick = host.stepped host.config.instructionsPerTick := by
      rw [← hcounted] at hresult ⊢
      exact runTick_of_counted hresult
    rw [htick]
    exact ⟨hresult, hmachine, host.sameDevices_stepped _⟩

/-- An instruction that fails in a run of the main loop does so in its last tick.  The
machine stays as it was before the instruction.  The run fails with the fault of the
instruction, with where it stands and with its word, if the tone is off or can be
turned off, and else because it cannot. -/
theorem mainLoop_reports_fault (host : Host Input Display Sound Store)
    {tick : Host Input Display Sound Store} (htick : tick ∈ host.starts .mainLoop)
    {attempt : Machine} (hattempt : attempt ∈ tick.attempts) {fault : Fault}
    (hstep : attempt.step = .error fault) :
    (host.starts .mainLoop).getLast? = some tick ∧ host.mainLoop.2.machine = attempt ∧
      (((tick.sounding = true → (SoundDevice.stop tick.sound).1 = .ok ()) ∧
          host.mainLoop.1 = .error (.engine fault attempt.counter attempt.word)) ∨
        ∃ reason, tick.sounding = true ∧ (SoundDevice.stop tick.sound).1 = .error reason ∧
          host.mainLoop.1 = .error (.sound reason)) := by
  obtain ⟨hresult, hmachine, hsame⟩ := runTick_of_attempt hattempt hstep
  rcases host.announce.runTicks_cases host.ticksLeft with
    ⟨-, hall⟩ | ⟨earlier, last, error, hstarts, hall, -, hticks⟩
  · rw [hall tick htick] at hresult
    contradiction
  · have hstarts : host.starts .mainLoop = earlier ++ [last] := hstarts
    -- the ticks before the last one have succeeded, and this one has not
    obtain rfl : tick = last := by
      rw [hstarts] at htick
      rcases List.mem_append.mp htick with hpast | hlast
      · rw [hall tick hpast] at hresult
        contradiction
      · exact List.mem_singleton.mp hlast
    have hend := host.endsSilenced
    rw [hticks] at hend
    refine ⟨by simp [hstarts], ?_⟩
    -- a failing tick leaves the tone alone, so that the device is as the tick has found it
    rw [← hsame.sounding, ← hsame.sound]
    generalize host.mainLoop = ended at hend ⊢
    cases hend with
    | silent hsilent journal =>
        rw [hsilent, hresult]
        exact ⟨hmachine, .inl ⟨by simp, rfl⟩⟩
    | stopped hsounding hstop journal =>
        rw [hstop, hresult]
        exact ⟨hmachine, .inl ⟨fun _ => rfl, rfl⟩⟩
    | refused hsounding hstop =>
        rw [hstop]
        exact ⟨hmachine, .inr ⟨_, hsounding, rfl, rfl⟩⟩

/-! ## A program that sounds and fails -/

/-- A host with a machine, and with a speaker that may fail. -/
def beeping (machine : Machine) (fails : Nat → Bool) :
    Host MaskPlayback FrameRecorder Beeper FileTable where
  machine := machine
  input := ⟨[]⟩
  display := {}
  sound := { speaker := { fails := fails } }
  files := {}
  config := { instructionsPerTick := 2, maxTicks := some 3 }

/-- The tone is turned on, and an illegal word follows.  The speaker works. -/
theorem mainLoop_reports_fault_beep : ∃ machine tick attempt fault,
    Machine.load [0x60, 0x0A, 0xF0, 0x18, 0x00, 0xFF] 0 0 = .ok machine ∧
      tick ∈ (beeping machine fun _ => false).starts .mainLoop ∧ tick.sounding = true ∧
      attempt ∈ tick.attempts ∧ attempt.step = .error fault ∧
      (beeping machine fun _ => false).mainLoop.1
        = .error (.engine fault attempt.counter attempt.word) := by
  obtain ⟨machine, hload, tick, htick, hsounding, hstop, attempt, hattempt, hfails⟩ : ∃ machine,
      Machine.load [0x60, 0x0A, 0xF0, 0x18, 0x00, 0xFF] 0 0 = .ok machine ∧
        ∃ tick ∈ (beeping machine fun _ => false).starts .mainLoop, tick.sounding = true ∧
          (SoundDevice.stop tick.sound).1 = .ok () ∧
          ∃ attempt ∈ tick.attempts, attempt.step.isOk = false := by
    refine ⟨_, rfl, ?_⟩
    decide +kernel
  cases hstep : attempt.step with
  | ok next => simp [hstep, Except.isOk, Except.toBool] at hfails
  | error fault =>
      refine ⟨machine, tick, attempt, fault, hload, htick, hsounding, hattempt, hstep, ?_⟩
      rcases (mainLoop_reports_fault _ htick hattempt hstep).2.2 with
        ⟨-, hresult⟩ | ⟨reason, -, hfailed, -⟩
      · exact hresult
      · rw [hstop] at hfailed
        contradiction

/-- The tone is turned on, and an illegal word follows.  The speaker does not obey when
the tone is to be turned off, and this is what is reported. -/
theorem fault_not_reported : ∃ machine,
    Machine.load [0x60, 0x0A, 0xF0, 0x18, 0x00, 0xFF] 0 0 = .ok machine ∧
      (∃ tick ∈ (beeping machine (· = 1)).starts .mainLoop,
        ∃ attempt ∈ tick.attempts, attempt.step.isOk = false) ∧
      (beeping machine (· = 1)).mainLoop.1 = .error (.sound Speaker.failure) := by
  refine ⟨_, rfl, ?_⟩
  decide +kernel

end Host

end Chip8
