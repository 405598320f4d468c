import Chip8.Host.Loop
import Chip8.Proofs.Host.Driving
import Chip8.Proofs.Machine.Marking

/-!
# The stages of a tick

How far a tick has got, and what it leaves alone until then.  The devices are
what they were until a stage asks one of them for something, and the parts of
the machine that have a mark change in instructions only.
-/

namespace Chip8

namespace Host

variable {Input Display Sound Store : Type}

/-! ## What a stage can do

Each stage in one statement: how it may end, and the host after it.  What the log
gets does not matter. -/

/-- A poll yields the keys for the machine, or fails. -/
theorem pollKeys_cases [InputDevice Input] (host : Host Input Display Sound Store) :
    (∃ error input journal, InputDevice.poll host.input = (.error error, input) ∧
      host.pollKeys = { host with input := input, journal := journal }.failed (.io error)) ∨
    ∃ mask input journal, InputDevice.poll host.input = (.ok mask, input) ∧
      host.pollKeys = { host with
        input := input
        journal := journal
        machine := host.machine.setKeys mask }.done := by
  cases hpoll : InputDevice.poll host.input with
  | mk result input =>
      cases result with
      | error error =>
          refine .inl ⟨error, input,
            (host.note fun _ => InputDevice.pollRecords host.input).journal, rfl, ?_⟩
          simp only [pollKeys, note, hpoll]
      | ok mask =>
          refine .inr ⟨mask, input, ((host.note fun _ => InputDevice.pollRecords host.input).note
            fun _ => host.machine.keyRecords mask).journal, rfl, ?_⟩
          simp only [pollKeys, note, hpoll]

/-- The instructions end with a wait for a key or with one that fails, or go on. -/
theorem runInstructions_cases (host : Host Input Display Sound Store) (count : Nat) :
    (host.machine.isWaiting = true ∧ host.runInstructions (count + 1) = host.done) ∨
    (host.machine.isWaiting = false ∧ ∃ journal,
      (∃ fault, host.machine.step = .error fault ∧ host.runInstructions (count + 1)
        = { host with journal := journal }.failed
            (.engine fault host.machine.counter host.machine.word)) ∨
      ∃ next, host.machine.step = .ok next ∧ host.runInstructions (count + 1)
        = { host with journal := journal, machine := next }.runInstructions count) := by
  by_cases hwaiting : host.machine.isWaiting = true
  · refine .inl ⟨hwaiting, ?_⟩
    rw [runInstructions, if_pos hwaiting]
  · refine .inr ⟨eq_false_of_ne_true hwaiting,
      (host.note fun _ => host.machine.stepRecords).journal, ?_⟩
    rw [runInstructions, if_neg hwaiting]
    cases hstep : host.machine.step with
    | error fault =>
        refine .inl ⟨fault, rfl, ?_⟩
        simp only [note, hstep]
    | ok next =>
        refine .inr ⟨next, rfl, ?_⟩
        simp only [note, hstep]

/-- The device does as it is told, or fails. -/
theorem setTone_cases [SoundDevice Sound] (host : Host Input Display Sound Store) (on : Bool) :
    ∃ sound,
      (∃ reason,
        (if on then SoundDevice.start host.sound else SoundDevice.stop host.sound)
          = (.error reason, sound) ∧
        host.setTone on = { host with sound := sound }.failed (.sound reason)) ∨
      ((if on then SoundDevice.start host.sound else SoundDevice.stop host.sound)
          = (.ok (), sound) ∧
        host.setTone on = { host with sound := sound, sounding := on }.done) := by
  cases htone : (if on then SoundDevice.start host.sound else SoundDevice.stop host.sound) with
  | mk result sound =>
      refine ⟨sound, ?_⟩
      cases result with
      | error reason =>
          refine .inl ⟨reason, rfl, ?_⟩
          rw [setTone, htone]
      | ok value =>
          refine .inr ⟨rfl, ?_⟩
          rw [setTone, htone]

/-- The tone is left alone if it follows the sound timer already. -/
theorem adjustTone_cases [SoundDevice Sound] (host : Host Input Display Sound Store) :
    (host.machine.isSounding = host.sounding ∧ host.adjustTone = host.done) ∨
    (host.machine.isSounding ≠ host.sounding ∧
      host.adjustTone = host.setTone host.machine.isSounding) := by
  by_cases hsounding : host.machine.isSounding = host.sounding
  · exact .inl ⟨hsounding, if_pos hsounding⟩
  · exact .inr ⟨hsounding, if_neg hsounding⟩

/-- A tone that is on is turned off in the end, unless the device fails. -/
theorem silence_cases [SoundDevice Sound] (host : Host Input Display Sound Store) :
    (host.sounding = false ∧ host.silence = host.done) ∨
    (host.sounding = true ∧ ∃ sound,
      (∃ reason, SoundDevice.stop host.sound = (.error reason, sound) ∧
        host.silence = { host with sound := sound }.failed (.sound reason)) ∨
      (SoundDevice.stop host.sound = (.ok (), sound) ∧
        host.silence = { host with sound := sound, sounding := false }.done)) := by
  by_cases hsounding : host.sounding = true
  · have hsilence : host.silence = host.setTone false := if_pos hsounding
    rw [hsilence]
    exact .inr ⟨hsounding, host.setTone_cases false⟩
  · exact .inl ⟨eq_false_of_ne_true hsounding, if_neg hsounding⟩

/-- The screen is shown if it is marked, and the mark goes if the display accepts it. -/
theorem showScreen_cases [DisplayDevice Display] (host : Host Input Display Sound Store) :
    (host.machine.screen.dirty = false ∧ host.showScreen = host.done) ∨
    (host.machine.screen.dirty = true ∧ ∃ display,
      (∃ error, DisplayDevice.draw host.display host.machine.screen.bytes
          = (.error error, display) ∧
        host.showScreen = { host with display := display }.failed (.io error)) ∨
      (DisplayDevice.draw host.display host.machine.screen.bytes = (.ok (), display) ∧
        host.showScreen
          = { host with display := display, machine := host.machine.acknowledgeScreen }.done)) := by
  by_cases hdirty : host.machine.screen.dirty = true
  · refine .inr ⟨hdirty, ?_⟩
    cases hdraw : DisplayDevice.draw host.display host.machine.screen.bytes with
    | mk result display =>
        refine ⟨display, ?_⟩
        cases result with
        | error error =>
            refine .inl ⟨error, rfl, ?_⟩
            rw [showScreen, if_pos hdirty, hdraw]
        | ok value =>
            refine .inr ⟨rfl, ?_⟩
            rw [showScreen, if_pos hdirty, hdraw]
  · refine .inl ⟨eq_false_of_ne_true hdirty, ?_⟩
    rw [showScreen, if_neg hdirty]

/-- The flags are saved if they are marked, and the mark goes if that succeeds. -/
theorem keepFlags_cases [FileStore Store] (host : Host Input Display Sound Store) :
    (host.machine.flags.dirty = false ∧ host.keepFlags = host.done) ∨
    (host.machine.flags.dirty = true ∧
      ((host.config.flagsPath = none ∧
        host.keepFlags = { host with machine := host.machine.acknowledgeFlags }.done) ∨
      ∃ path files journal, host.config.flagsPath = some path ∧
        ((∃ error, FlagFile.save host.files path host.machine.flags.packed
            = (.error error, files) ∧
          host.keepFlags = { host with files := files }.failed error) ∨
        (FlagFile.save host.files path host.machine.flags.packed = (.ok (), files) ∧
          host.keepFlags = { host with
            files := files
            journal := journal
            machine := host.machine.acknowledgeFlags }.done)))) := by
  by_cases hdirty : host.machine.flags.dirty = true
  · refine .inr ⟨hdirty, ?_⟩
    cases hpath : host.config.flagsPath with
    | none =>
        refine .inl ⟨rfl, ?_⟩
        rw [keepFlags, if_pos hdirty, hpath]
    | some path =>
        cases hsave : FlagFile.save host.files path host.machine.flags.packed with
        | mk result files =>
            refine .inr ⟨path, files,
              (host.note fun _ => [⟨.info, "saved flags to " ++ path⟩]).journal, rfl, ?_⟩
            cases result with
            | error error =>
                refine .inl ⟨error, hsave, ?_⟩
                rw [keepFlags, if_pos hdirty, hpath]
                simp only [hsave]
            | ok value =>
                refine .inr ⟨hsave, ?_⟩
                rw [keepFlags, if_pos hdirty, hpath]
                simp only [hsave, note]
  · refine .inl ⟨eq_false_of_ne_true hdirty, ?_⟩
    rw [keepFlags, if_neg hdirty]

/-! ## How far a tick has got -/

section Stages

variable [InputDevice Input]

/-- A tick that has run so many instructions, or could not. -/
def stepped (host : Host Input Display Sound Store) (count : Nat) :
    Outcome Input Display Sound Store :=
  host.pollKeys.andThen fun host => host.runInstructions count

/-- A tick up to the timers. -/
def counted (host : Host Input Display Sound Store) : Outcome Input Display Sound Store :=
  (host.stepped host.config.instructionsPerTick).andThen countTick

/-- A tick up to the tone. -/
def toned [SoundDevice Sound] (host : Host Input Display Sound Store) :
    Outcome Input Display Sound Store :=
  host.counted.andThen adjustTone

/-- A tick up to the screen. -/
def shown [SoundDevice Sound] [DisplayDevice Display] (host : Host Input Display Sound Store) :
    Outcome Input Display Sound Store :=
  host.toned.andThen showScreen

theorem config_pollKeys (host : Host Input Display Sound Store) :
    host.pollKeys.host.config = host.config := by
  rcases host.pollKeys_cases with ⟨_, _, _, _, hpolled⟩ | ⟨_, _, _, _, hpolled⟩
  · rw [hpolled]
    rfl
  · rw [hpolled]
    rfl

variable [SoundDevice Sound] [DisplayDevice Display] [FileStore Store]

/-- A tick ends with the flags. -/
theorem runTick_eq (host : Host Input Display Sound Store) :
    host.runTick = host.shown.andThen keepFlags := by
  have hstepped : host.pollKeys.andThen (fun host =>
      host.runInstructions host.config.instructionsPerTick)
        = host.stepped host.config.instructionsPerTick := by
    rw [stepped, ← host.config_pollKeys]
    unfold Outcome.andThen
    split
    · rfl
    · rfl
  rw [runTick, hstepped]
  rfl

/-- The hosts that a tick passes through: at its start, after each instruction and
after each stage. -/
inductive Passes (host : Host Input Display Sound Store) : Host Input Display Sound Store → Prop
  | start : Passes host host
  | stepped (count : Nat) (hcount : count ≤ host.config.instructionsPerTick) :
      Passes host (host.stepped count).host
  | counted : Passes host host.counted.host
  | toned : Passes host host.toned.host
  | shown : Passes host host.shown.host
  | kept : Passes host host.runTick.host

end Stages

/-- Work that goes on after other work leaves nothing else behind than either of them
could. -/
theorem host_andThen {Good : Host Input Display Sound Store → Prop}
    {outcome : Outcome Input Display Sound Store}
    {stage : Host Input Display Sound Store → Outcome Input Display Sound Store}
    (houtcome : Good outcome.host) (hstage : ∀ host, Good host → Good (stage host).host) :
    Good (outcome.andThen stage).host := by
  unfold Outcome.andThen
  split
  · exact hstage _ houtcome
  · exact houtcome

theorem result_andThen {outcome : Outcome Input Display Sound Store}
    {stage : Host Input Display Sound Store → Outcome Input Display Sound Store}
    (hresult : outcome.result = .ok ()) : outcome.andThen stage = stage outcome.host := by
  rw [Outcome.andThen, hresult]

theorem andThen_of_error {outcome : Outcome Input Display Sound Store}
    {stage : Host Input Display Sound Store → Outcome Input Display Sound Store}
    {error : HostError} (hresult : outcome.result = .error error) :
    outcome.andThen stage = outcome := by
  rw [Outcome.andThen, hresult]

theorem ok_of_andThen {outcome : Outcome Input Display Sound Store}
    {stage : Host Input Display Sound Store → Outcome Input Display Sound Store}
    (hresult : (outcome.andThen stage).result = .ok ()) : outcome.result = .ok () := by
  cases houtcome : outcome.result with
  | ok value => rfl
  | error error =>
      rw [andThen_of_error houtcome, houtcome] at hresult
      contradiction

/-- A tick that fails before the tone gets no further. -/
theorem runTick_of_counted [InputDevice Input] [SoundDevice Sound] [DisplayDevice Display]
    [FileStore Store] {host : Host Input Display Sound Store} {error : HostError}
    (hresult : host.counted.result = .error error) : host.runTick = host.counted := by
  have htoned : host.toned = host.counted := andThen_of_error hresult
  have hshown : host.shown = host.counted := by rw [shown, htoned, andThen_of_error hresult]
  rw [runTick_eq, hshown, andThen_of_error hresult]

/-- Either the poll fails and nothing is done, or the instructions are steps of the
machine that knows the keys. -/
theorem stepped_cases [InputDevice Input] (host : Host Input Display Sound Store) (count : Nat) :
    (∃ error, (InputDevice.poll host.input).1 = .error error ∧
      host.stepped count = host.pollKeys ∧ (host.stepped count).result = .error (.io error) ∧
      (host.stepped count).host.machine = host.machine) ∨
    ∃ mask, (InputDevice.poll host.input).1 = .ok mask ∧
      (host.stepped count).host.machine
        = ((host.machine.setKeys mask).stepsFrom 0 count).machine ∧
      (host.stepped count).result
        = match ((host.machine.setKeys mask).stepsFrom 0 count).failure with
          | none => .ok ()
          | some fault => .error (.engine fault (host.stepped count).host.machine.counter
              (host.stepped count).host.machine.word) := by
  rcases host.pollKeys_cases with
    ⟨error, input, journal, hpoll, hpolled⟩ | ⟨mask, input, journal, hpoll, hpolled⟩
  · have hresult : host.pollKeys.result = .error (.io error) := by rw [hpolled]; rfl
    rw [stepped, andThen_of_error hresult, hpoll]
    refine .inl ⟨error, rfl, rfl, hresult, ?_⟩
    rw [hpolled]
    rfl
  · have hresult : host.pollKeys.result = .ok () := by rw [hpolled]; rfl
    have hsteps := host.pollKeys.host.takesSteps_runInstructions 0 count
    have hmachine : host.pollKeys.host.machine = host.machine.setKeys mask := by rw [hpolled]; rfl
    rw [hmachine] at hsteps
    rw [stepped, result_andThen hresult, hpoll]
    refine .inr ⟨mask, rfl, hsteps.machine, ?_⟩
    rw [hsteps.machine]
    exact hsteps.result

/-- Counting the timers down never fails, so that the instructions do if it is not
reached. -/
theorem counted_of_error [InputDevice Input] {host : Host Input Display Sound Store}
    {error : HostError} (hresult : host.counted.result = .error error) :
    host.counted = host.stepped host.config.instructionsPerTick := by
  cases hstepped : (host.stepped host.config.instructionsPerTick).result with
  | error other => exact andThen_of_error hstepped
  | ok value =>
      rw [counted, result_andThen hstepped] at hresult
      contradiction

/-! ## What stages leave alone -/

/-- The devices but the input, and what the host remembers of them, are as before. -/
structure SameDevices (before after : Host Input Display Sound Store) : Prop where
  display : after.display = before.display
  sound : after.sound = before.sound
  files : after.files = before.files
  config : after.config = before.config
  sounding : after.sounding = before.sounding

theorem SameDevices.refl (host : Host Input Display Sound Store) : SameDevices host host :=
  ⟨rfl, rfl, rfl, rfl, rfl⟩

theorem SameDevices.trans {first second third : Host Input Display Sound Store}
    (hfirst : SameDevices first second) (hsecond : SameDevices second third) :
    SameDevices first third where
  display := hsecond.display.trans hfirst.display
  sound := hsecond.sound.trans hfirst.sound
  files := hsecond.files.trans hfirst.files
  config := hsecond.config.trans hfirst.config
  sounding := hsecond.sounding.trans hfirst.sounding

theorem sameDevices_runInstructions (host : Host Input Display Sound Store) (count : Nat) :
    SameDevices host (host.runInstructions count).host := by
  induction count generalizing host with
  | zero => exact .refl host
  | succ count ih =>
      rcases host.runInstructions_cases count with
        ⟨_, hrun⟩ | ⟨_, journal, ⟨_, _, hrun⟩ | ⟨next, _, hrun⟩⟩
      · rw [hrun]
        exact .refl host
      · rw [hrun]
        exact ⟨rfl, rfl, rfl, rfl, rfl⟩
      · rw [hrun]
        have hrest := ih { host with journal := journal, machine := next }
        exact ⟨hrest.display, hrest.sound, hrest.files, hrest.config, hrest.sounding⟩

section Frames

variable [InputDevice Input]

theorem sameDevices_pollKeys (host : Host Input Display Sound Store) :
    SameDevices host host.pollKeys.host := by
  rcases host.pollKeys_cases with ⟨_, _, _, _, hpolled⟩ | ⟨_, _, _, _, hpolled⟩
  · rw [hpolled]
    exact ⟨rfl, rfl, rfl, rfl, rfl⟩
  · rw [hpolled]
    exact ⟨rfl, rfl, rfl, rfl, rfl⟩

theorem sameDevices_stepped (host : Host Input Display Sound Store) (count : Nat) :
    SameDevices host (host.stepped count).host :=
  host_andThen host.sameDevices_pollKeys fun _ hpolled =>
    hpolled.trans (sameDevices_runInstructions _ count)

theorem sameDevices_counted (host : Host Input Display Sound Store) :
    SameDevices host host.counted.host :=
  host_andThen (host.sameDevices_stepped _) fun _ hstepped =>
    hstepped.trans ⟨rfl, rfl, rfl, rfl, rfl⟩

end Frames

section Later

variable (host : Host Input Display Sound Store)

theorem setTone_host [SoundDevice Sound] (on : Bool) : ∃ sound sounding,
    (host.setTone on).host = { host with sound := sound, sounding := sounding } := by
  obtain ⟨sound, ⟨_, -, htone⟩ | ⟨-, htone⟩⟩ := host.setTone_cases on
  · exact ⟨sound, host.sounding, by rw [htone]; rfl⟩
  · exact ⟨sound, on, by rw [htone]; rfl⟩

theorem silence_host [SoundDevice Sound] : ∃ sound sounding,
    host.silence.host = { host with sound := sound, sounding := sounding } := by
  unfold silence
  split
  · exact host.setTone_host false
  · exact ⟨host.sound, host.sounding, rfl⟩

theorem toned_host [InputDevice Input] [SoundDevice Sound] : ∃ sound sounding,
    host.toned.host = { host.counted.host with sound := sound, sounding := sounding } := by
  cases hresult : host.counted.result with
  | error error =>
      rw [toned, andThen_of_error hresult]
      exact ⟨host.counted.host.sound, host.counted.host.sounding, rfl⟩
  | ok value =>
      rw [toned, result_andThen hresult]
      rcases host.counted.host.adjustTone_cases with ⟨-, htone⟩ | ⟨-, htone⟩
      · exact ⟨host.counted.host.sound, host.counted.host.sounding, by rw [htone]; rfl⟩
      · rw [htone]
        exact setTone_host _ _

/-- Showing the screen changes the display, and the mark of the screen. -/
theorem showScreen_host [DisplayDevice Display] : ∃ display screen,
    host.showScreen.host = { host with
      display := display
      machine := { host.machine with screen := screen } } := by
  rcases host.showScreen_cases with ⟨-, hshow⟩ | ⟨-, display, ⟨_, -, hshow⟩ | ⟨-, hshow⟩⟩
  · exact ⟨host.display, host.machine.screen, by rw [hshow]; rfl⟩
  · exact ⟨display, host.machine.screen, by rw [hshow]; rfl⟩
  · exact ⟨display, host.machine.screen.acknowledge, by rw [hshow]; rfl⟩

theorem shown_host [InputDevice Input] [SoundDevice Sound] [DisplayDevice Display] :
    ∃ display screen, host.shown.host = { host.toned.host with
      display := display
      machine := { host.toned.host.machine with screen := screen } } := by
  cases hresult : host.toned.result with
  | error error =>
      rw [shown, andThen_of_error hresult]
      exact ⟨host.toned.host.display, host.toned.host.machine.screen, rfl⟩
  | ok value =>
      rw [shown, result_andThen hresult]
      exact host.toned.host.showScreen_host

/-- Keeping the flags changes the files, and the mark of the flags. -/
theorem keepFlags_host [FileStore Store] : ∃ files flags journal,
    host.keepFlags.host = { host with
      files := files
      journal := journal
      machine := { host.machine with flags := flags } } := by
  rcases host.keepFlags_cases with ⟨-, hkeep⟩ | ⟨-, ⟨-, hkeep⟩ |
    ⟨_, files, journal, -, ⟨_, -, hkeep⟩ | ⟨-, hkeep⟩⟩⟩
  · exact ⟨host.files, host.machine.flags, host.journal, by rw [hkeep]; rfl⟩
  · exact ⟨host.files, host.machine.flags.acknowledge, host.journal, by rw [hkeep]; rfl⟩
  · exact ⟨files, host.machine.flags, host.journal, by rw [hkeep]; rfl⟩
  · exact ⟨files, host.machine.flags.acknowledge, journal, by rw [hkeep]; rfl⟩

end Later

/-! ## What lasts -/

section Lasting

variable [InputDevice Input] [DisplayDevice Display] [SoundDevice Sound] [FileStore Store]

/-- A property of hosts that nothing takes away that a host does. -/
structure Lasting (Good : Host Input Display Sound Store → Prop) : Prop where
  journal : ∀ host journal, Good host → Good { host with journal := journal }
  pollKeys : ∀ host, Good host → Good host.pollKeys.host
  step : ∀ (host : Host Input Display Sound Store) (next : Machine), Good host →
    host.machine.step = .ok next → Good { host with machine := next }
  countTick : ∀ host, Good host → Good host.countTick.host
  setTone : ∀ host on, host.sounding ≠ on → Good host → Good (host.setTone on).host
  showScreen : ∀ host, Good host → Good host.showScreen.host
  keepFlags : ∀ host, Good host → Good host.keepFlags.host

namespace Lasting

variable {Good : Host Input Display Sound Store → Prop} (hlasting : Lasting Good)
  {host : Host Input Display Sound Store}

include hlasting

theorem runInstructions (hhost : Good host) (count : Nat) :
    Good (host.runInstructions count).host := by
  induction count generalizing host with
  | zero => exact hhost
  | succ count ih =>
      rcases host.runInstructions_cases count with
        ⟨_, hrun⟩ | ⟨_, journal, ⟨_, _, hrun⟩ | ⟨next, hstep, hrun⟩⟩
      · rw [hrun]
        exact hhost
      · rw [hrun]
        exact hlasting.journal host journal hhost
      · rw [hrun]
        exact ih (hlasting.journal _ journal (hlasting.step host next hhost hstep))

theorem adjustTone (hhost : Good host) : Good host.adjustTone.host := by
  rcases host.adjustTone_cases with ⟨_, htone⟩ | ⟨hother, htone⟩
  · rw [htone]
    exact hhost
  · rw [htone]
    exact hlasting.setTone host _ hother.symm hhost

theorem silence (hhost : Good host) : Good host.silence.host := by
  unfold Host.silence
  split
  · next hsounding => exact hlasting.setTone host false (by simp [hsounding]) hhost
  · exact hhost

theorem stepped (hhost : Good host) (count : Nat) : Good (host.stepped count).host :=
  host_andThen (hlasting.pollKeys host hhost) fun _ hpolled =>
    hlasting.runInstructions hpolled count

theorem counted (hhost : Good host) : Good host.counted.host :=
  host_andThen (hlasting.stepped hhost _) hlasting.countTick

theorem toned (hhost : Good host) : Good host.toned.host :=
  host_andThen (hlasting.counted hhost) fun _ => hlasting.adjustTone

theorem shown (hhost : Good host) : Good host.shown.host :=
  host_andThen (hlasting.toned hhost) hlasting.showScreen

theorem runTick (hhost : Good host) : Good host.runTick.host := by
  rw [runTick_eq]
  exact host_andThen (hlasting.shown hhost) hlasting.keepFlags

/-- What lasts is true wherever a tick passes through. -/
theorem passes (hhost : Good host) {point : Host Input Display Sound Store}
    (hpoint : host.Passes point) : Good point := by
  cases hpoint with
  | start => exact hhost
  | stepped count hcount => exact hlasting.stepped hhost count
  | counted => exact hlasting.counted hhost
  | toned => exact hlasting.toned hhost
  | shown => exact hlasting.shown hhost
  | kept => exact hlasting.runTick hhost

end Lasting

/-- A property lasts that depends on the display, the files and a marked part alone, that
setting the mark does not take away, and that is kept by those who take the part. -/
theorem lasting_of_mark {Part : Type} (mark : Machine.Mark Part)
    {Good : Host Input Display Sound Store → Prop}
    (hsame : ∀ before after : Host Input Display Sound Store, Good before →
      after.config = before.config → after.display = before.display →
      after.files = before.files → mark.part after.machine = mark.part before.machine → Good after)
    (hset : ∀ (before : Host Input Display Sound Store) (next : Machine), Good before →
      mark.isSet (mark.part next) = true → Good { before with machine := next })
    (hshow : ∀ host, Good host → Good host.showScreen.host)
    (hkeep : ∀ host, Good host → Good host.keepFlags.host) : Lasting Good where
  journal host journal hhost := hsame host _ hhost rfl rfl rfl rfl
  pollKeys host hhost := by
    rcases host.pollKeys_cases with ⟨_, _, _, _, hpolled⟩ | ⟨mask, _, _, _, hpolled⟩
    · rw [hpolled]
      exact hsame host _ hhost rfl rfl rfl rfl
    · rw [hpolled]
      exact hsame host _ hhost rfl rfl rfl (mark.part_setKeys host.machine mask)
  step host next hhost hstep := by
    rcases mark.of_step hstep with ⟨-, hmarked⟩ | ⟨-, hpart⟩
    · exact hset host next hhost hmarked
    · exact hsame host _ hhost rfl rfl rfl hpart
  countTick host hhost := hsame host _ hhost rfl rfl rfl (mark.part_tick host.machine)
  setTone host on _ hhost := by
    obtain ⟨sound, sounding, htone⟩ := host.setTone_host on
    rw [htone]
    exact hsame host _ hhost rfl rfl rfl rfl
  showScreen := hshow
  keepFlags := hkeep

end Lasting

end Host

end Chip8
