import Chip8.Host.Tick
import Chip8.Proofs.Host.Marks

/-!
# What the host does to the machine

Whatever the devices do, the machine of a host is the one that results from the
polls alone: for each of them that yields a mask, the keys are replaced, steps are
taken until one fails, and the timers are counted down if none did.  The display,
the sound device and the flag file only see to the marks, which do not matter.
-/

namespace Chip8

namespace Machine

/-! ## The machine under a list of polls -/

/-- What becomes of a machine with one poll, which yields a mask or fails, and how
often the timers are counted down. -/
def follow (machine : Machine) (count : Nat) : Option KeyMask → Machine × Nat
  | none => (machine, 0)
  | some mask =>
      let progress := (machine.setKeys mask).steps count
      match progress.failure with
      | some _ => (progress.machine, 0)
      | none => (progress.machine.tick, 1)

/-- What becomes of a machine with one poll after the other. -/
def followAll (machine : Machine) (count : Nat) : List (Option KeyMask) → Machine × Nat
  | [] => (machine, 0)
  | poll :: rest =>
      let (next, ticked) := machine.follow count poll
      let (last, ticks) := next.followAll count rest
      (last, ticked + ticks)

/-- Marks make no difference to what becomes of a machine. -/
theorem follow_of_unmarked {first second : Machine} (hsame : first.unmarked = second.unmarked)
    (count : Nat) (poll : Option KeyMask) :
    (first.follow count poll).1.unmarked = (second.follow count poll).1.unmarked ∧
      (first.follow count poll).2 = (second.follow count poll).2 := by
  cases poll with
  | none => exact ⟨hsame, rfl⟩
  | some mask =>
      obtain ⟨hfailure, hmachine⟩ :=
        stepsFrom_of_unmarked (setKeys_of_unmarked hsame mask) 0 count
      simp only [follow, steps]
      rw [← hfailure]
      cases ((first.setKeys mask).stepsFrom 0 count).failure with
      | some fault => exact ⟨hmachine, rfl⟩
      | none => exact ⟨tick_of_unmarked hmachine, rfl⟩

end Machine

namespace Host

variable {Input Display Sound Store : Type}

/-! ## Runs of ticks -/

section Runs

variable [InputDevice Input]

/-- What so many polls of an input device yield, one after the other. -/
def polls (input : Input) : Nat → List (Option KeyMask)
  | 0 => []
  | count + 1 => (InputDevice.poll input).1.toOption :: polls (InputDevice.poll input).2 count

variable [DisplayDevice Display] [SoundDevice Sound] [FileStore Store]

/-- The host after a number of ticks, whether these succeed or fail. -/
def afterTicks (host : Host Input Display Sound Store) : Nat → Host Input Display Sound Store
  | 0 => host
  | count + 1 => host.runTick.host.afterTicks count

end Runs

/-! ## What the other stages leave alone -/

/-- All that decides what the machine does from now on is as before. -/
structure KeepsDriving (before after : Host Input Display Sound Store) : Prop where
  input : after.input = before.input
  config : after.config = before.config
  ticks : after.ticks = before.ticks
  machine : after.machine.unmarked = before.machine.unmarked

theorem KeepsDriving.refl (host : Host Input Display Sound Store) : KeepsDriving host host :=
  ⟨rfl, rfl, rfl, rfl⟩

theorem KeepsDriving.trans {first second third : Host Input Display Sound Store}
    (hfirst : KeepsDriving first second) (hsecond : KeepsDriving second third) :
    KeepsDriving first third where
  input := hsecond.input.trans hfirst.input
  config := hsecond.config.trans hfirst.config
  ticks := hsecond.ticks.trans hfirst.ticks
  machine := hsecond.machine.trans hfirst.machine

/-- A stage that leaves all this alone may follow any work. -/
theorem keepsDriving_andThen (outcome : Outcome Input Display Sound Store)
    {stage : Host Input Display Sound Store → Outcome Input Display Sound Store}
    (hstage : ∀ host, KeepsDriving host (stage host).host) :
    KeepsDriving outcome.host (outcome.andThen stage).host := by
  unfold Outcome.andThen
  cases outcome.result with
  | ok value => exact hstage outcome.host
  | error error => exact .refl outcome.host

theorem keepsDriving_adjustTone [SoundDevice Sound] (host : Host Input Display Sound Store) :
    KeepsDriving host host.adjustTone.host := by
  unfold adjustTone
  split
  · exact .refl host
  · unfold setTone
    split
    · exact ⟨rfl, rfl, rfl, rfl⟩
    · exact ⟨rfl, rfl, rfl, rfl⟩

theorem keepsDriving_showScreen [DisplayDevice Display] (host : Host Input Display Sound Store) :
    KeepsDriving host host.showScreen.host := by
  unfold showScreen
  split
  · split
    · exact ⟨rfl, rfl, rfl, rfl⟩
    · exact ⟨rfl, rfl, rfl, rfl⟩
  · exact .refl host

theorem keepsDriving_keepFlags [FileStore Store] (host : Host Input Display Sound Store) :
    KeepsDriving host host.keepFlags.host := by
  unfold keepFlags
  split
  · split
    · exact ⟨rfl, rfl, rfl, rfl⟩
    · split
      · exact ⟨rfl, rfl, rfl, rfl⟩
      · exact ⟨rfl, rfl, rfl, rfl⟩
  · exact .refl host

/-! ## What a tick does -/

/-- Work that takes steps of the machine, as far as these go, and no more. -/
structure TakesSteps (host : Host Input Display Sound Store) (progress : Machine.Progress)
    (outcome : Outcome Input Display Sound Store) : Prop where
  machine : outcome.host.machine = progress.machine
  result : outcome.result = match progress.failure with
    | none => .ok ()
    | some fault => .error (.engine fault progress.machine.counter progress.machine.word)
  input : outcome.host.input = host.input
  config : outcome.host.config = host.config
  ticks : outcome.host.ticks = host.ticks

/-- The instructions of a tick are so many steps, although the host stops at the
first wait for a key. -/
theorem takesSteps_runInstructions (host : Host Input Display Sound Store) (done count : Nat) :
    TakesSteps host (host.machine.stepsFrom done count) (host.runInstructions count) := by
  induction count generalizing host done with
  | zero => exact ⟨rfl, rfl, rfl, rfl, rfl⟩
  | succ count ih =>
      -- the host stops at a wait, where all further steps would do nothing
      by_cases hwaiting : host.machine.isWaiting = true
      · rw [Machine.stepsFrom_of_waiting hwaiting, runInstructions, if_pos hwaiting]
        exact ⟨rfl, rfl, rfl, rfl, rfl⟩
      · rw [runInstructions, if_neg hwaiting, Machine.stepsFrom]
        have hnote : (host.note fun _ => host.machine.stepRecords).machine = host.machine := rfl
        simp only [hnote]
        cases host.machine.step with
        | error fault => exact ⟨rfl, rfl, rfl, rfl, rfl⟩
        | ok next =>
            have hrest := ih { host.note fun _ => host.machine.stepRecords with machine := next }
              (done + 1)
            exact ⟨hrest.machine, hrest.result, hrest.input, hrest.config, hrest.ticks⟩

section Ticks

variable [InputDevice Input]

/-- What a tick does to the input device and the machine: one poll, and what the
machine makes of it. -/
structure Follows (host after : Host Input Display Sound Store) : Prop where
  input : after.input = (InputDevice.poll host.input).2
  config : after.config = host.config
  ticks : after.ticks = host.ticks + (host.machine.follow host.config.instructionsPerTick
    (InputDevice.poll host.input).1.toOption).2
  machine : after.machine.unmarked = (host.machine.follow host.config.instructionsPerTick
    (InputDevice.poll host.input).1.toOption).1.unmarked

/-- Once the machine knows the keys, instructions and timers follow. -/
theorem follows_of_polled {host polled : Host Input Display Sound Store} {mask : KeyMask}
    {input : Input} (hpoll : InputDevice.poll host.input = (.ok mask, input))
    (hinput : polled.input = input) (hconfig : polled.config = host.config)
    (hticks : polled.ticks = host.ticks) (hmachine : polled.machine = host.machine.setKeys mask) :
    Follows host
      ((polled.runInstructions polled.config.instructionsPerTick).andThen countTick).host := by
  have hsteps := polled.takesSteps_runInstructions 0 polled.config.instructionsPerTick
  have hfollow : host.machine.follow host.config.instructionsPerTick
      (InputDevice.poll host.input).1.toOption
      = match (polled.machine.stepsFrom 0 polled.config.instructionsPerTick).failure with
        | some _ => ((polled.machine.stepsFrom 0 polled.config.instructionsPerTick).machine, 0)
        | none =>
            ((polled.machine.stepsFrom 0 polled.config.instructionsPerTick).machine.tick, 1) := by
    rw [hpoll, hmachine, hconfig]
    rfl
  have hnext : (InputDevice.poll host.input).2 = polled.input := by rw [hpoll, hinput]
  have hresult := hsteps.result
  rw [Outcome.andThen]
  -- a failed step ends the work before the timers are counted down
  cases hfailure : (polled.machine.stepsFrom 0 polled.config.instructionsPerTick).failure with
  | some fault =>
      rw [hfailure] at hresult hfollow
      rw [hresult]
      refine ⟨?_, ?_, ?_, ?_⟩
      · rw [hnext]
        exact hsteps.input
      · exact hsteps.config.trans hconfig
      · rw [hfollow]
        exact hsteps.ticks.trans hticks
      · rw [hfollow, hsteps.machine]
  | none =>
      rw [hfailure] at hresult hfollow
      rw [hresult]
      refine ⟨?_, ?_, ?_, ?_⟩
      · rw [hnext]
        exact hsteps.input
      · exact hsteps.config.trans hconfig
      · rw [hfollow]
        exact congrArg (· + 1) (hsteps.ticks.trans hticks)
      · rw [hfollow]
        exact congrArg (fun machine => machine.tick.unmarked) hsteps.machine

/-- The stages up to the timers follow the poll. -/
theorem follows_countTick (host : Host Input Display Sound Store) :
    Follows host ((host.pollKeys.andThen fun host =>
      host.runInstructions host.config.instructionsPerTick).andThen countTick).host := by
  cases hpoll : InputDevice.poll host.input with
  | mk result input =>
      cases result with
      | error error =>
          simp only [pollKeys, note, hpoll]
          refine ⟨?_, rfl, ?_, ?_⟩
          all_goals rw [hpoll]
          all_goals rfl
      | ok mask =>
          simp only [pollKeys, note, hpoll]
          exact follows_of_polled hpoll rfl rfl rfl rfl

variable [DisplayDevice Display] [SoundDevice Sound] [FileStore Store]

/-- The later stages change nothing about that. -/
theorem follows_runTick (host : Host Input Display Sound Store) :
    Follows host host.runTick.host := by
  have hlead := host.follows_countTick
  have hrest := ((keepsDriving_andThen ((host.pollKeys.andThen fun host =>
      host.runInstructions host.config.instructionsPerTick).andThen countTick)
        keepsDriving_adjustTone).trans
      (keepsDriving_andThen _ keepsDriving_showScreen)).trans
      (keepsDriving_andThen _ keepsDriving_keepFlags)
  refine ⟨?_, ?_, ?_, ?_⟩
  · exact hrest.input.trans hlead.input
  · exact hrest.config.trans hlead.config
  · exact hrest.ticks.trans hlead.ticks
  · exact hrest.machine.trans hlead.machine

/-- After any ticks, the machine is what the polls have made of it. -/
theorem followAll_afterTicks (host : Host Input Display Sound Store) (machine : Machine)
    (hmachine : host.machine.unmarked = machine.unmarked) (count : Nat) :
    (host.afterTicks count).machine.unmarked
        = (machine.followAll host.config.instructionsPerTick (polls host.input count)).1.unmarked ∧
      (host.afterTicks count).ticks = host.ticks
        + (machine.followAll host.config.instructionsPerTick (polls host.input count)).2 := by
  -- the machine need not be the one of the host, whose marks each tick may clear
  induction count generalizing host machine with
  | zero => exact ⟨hmachine, rfl⟩
  | succ count ih =>
      have htick := host.follows_runTick
      obtain ⟨hfollow, hticked⟩ := Machine.follow_of_unmarked hmachine
        host.config.instructionsPerTick (InputDevice.poll host.input).1.toOption
      obtain ⟨hlast, hticks⟩ := ih host.runTick.host _ (htick.machine.trans hfollow)
      rw [htick.config, htick.input] at hlast hticks
      rw [htick.ticks, hticked, Nat.add_assoc] at hticks
      exact ⟨hlast, hticks⟩

/-- Whatever the devices and the files do, the host drives the machine as the polls
say, up to the marks: after any ticks, failed ones included, the machine is what
these make of it, and as many ticks were counted as had their timers counted down.
The instructions of a tick are plain steps, although the host stops at the first
wait for a key.  Another host with the same machine, input device and number of
instructions drives it alike. -/
theorem drives_machine (host : Host Input Display Sound Store) (count : Nat) :
    (host.afterTicks count).machine.unmarked
        = (host.machine.followAll host.config.instructionsPerTick
            (polls host.input count)).1.unmarked ∧
      (host.afterTicks count).ticks = host.ticks
        + (host.machine.followAll host.config.instructionsPerTick (polls host.input count)).2 ∧
      (∀ number, TakesSteps host (host.machine.steps number) (host.runInstructions number)) ∧
      ∀ (Display' Sound' Store' : Type) [DisplayDevice Display'] [SoundDevice Sound']
        [FileStore Store'] (other : Host Input Display' Sound' Store'),
        other.machine = host.machine ∧ other.input = host.input ∧
          other.config.instructionsPerTick = host.config.instructionsPerTick ∧
          other.ticks = host.ticks →
        (other.afterTicks count).machine.unmarked = (host.afterTicks count).machine.unmarked ∧
          (other.afterTicks count).ticks = (host.afterTicks count).ticks := by
  obtain ⟨hmachine, hticks⟩ := host.followAll_afterTicks host.machine rfl count
  refine ⟨hmachine, hticks, ?_, ?_⟩
  · intro number
    exact host.takesSteps_runInstructions 0 number
  · intro Display' Sound' Store' _ _ _ other hsame
    obtain ⟨hother, hinput, hcount, hcounted⟩ := hsame
    obtain ⟨hmachine', hticks'⟩ := other.followAll_afterTicks other.machine rfl count
    rw [hmachine, hticks, hmachine', hticks', hother, hinput, hcount, hcounted]
    exact ⟨rfl, rfl⟩

end Ticks

end Host

end Chip8
