import Chip8.Proofs.FileStore.Lawful
import Chip8.Proofs.Host.Calls

/-!
# Observed devices

What the host asks of its devices, and whether they did as they were asked.  An
observed device is the device together with a list of this, so that statements
about a host can speak about all its requests.  Observing makes no difference to
the host.
-/

namespace Chip8

/-- A device, and the requests to it with whether they succeeded, the latest last. -/
structure Observed (Device Request : Type) where
  device : Device
  requests : List (Request × Bool) := []

namespace Observed

variable {Device Request Error Value : Type}

/-- Let the device do something, under the name of a request. -/
def ask (observed : Observed Device Request) (request : Request)
    (operation : Device → Except Error Value × Device) :
    Except Error Value × Observed Device Request :=
  let (result, device) := operation observed.device
  (result, ⟨device, observed.requests ++ [(request, result.isOk)]⟩)

/-- The requests that succeeded. -/
def granted (observed : Observed Device Request) : List Request :=
  (observed.requests.filter (·.2)).map (·.1)

/-- Whether a request has failed. -/
def Refused (observed : Observed Device Request) : Prop :=
  ∃ request, (request, false) ∈ observed.requests

instance {Input : Type} [InputDevice Input] : InputDevice (Observed Input Unit) where
  poll observed := observed.ask () InputDevice.poll
  quitRequested observed := InputDevice.quitRequested observed.device
  pollRecords observed := InputDevice.pollRecords observed.device

instance {Display : Type} [DisplayDevice Display] :
    DisplayDevice (Observed Display (List UInt8)) where
  draw observed frame := observed.ask frame (DisplayDevice.draw · frame)

/-- The request says whether the tone should be on. -/
instance {Sound : Type} [SoundDevice Sound] : SoundDevice (Observed Sound Bool) where
  start observed := observed.ask true SoundDevice.start
  stop observed := observed.ask false SoundDevice.stop

/-- Only what is written is observed. -/
instance {Store : Type} [FileStore Store] : FileStore (Observed Store (String × ByteArray)) where
  read observed path := FileStore.read observed.device path
  write observed path content := observed.ask (path, content) (FileStore.write · path content)

/-- What a device was asked, it does or it fails to do. -/
theorem ask_cases {observed after : Observed Device Request} {request : Request}
    {operation : Device → Except Error Value × Device} {result : Except Error Value}
    (hask : observed.ask request operation = (result, after)) :
    operation observed.device = (result, after.device) ∧
      after.requests = observed.requests ++ [(request, result.isOk)] := by
  cases hask
  exact ⟨rfl, rfl⟩

section Requests

variable {before after : Observed Device Request} {request : Request}

theorem granted_of_accepted (hrequests : after.requests = before.requests ++ [(request, true)]) :
    after.granted = before.granted ++ [request] := by
  simp [granted, hrequests]

theorem granted_of_refused (hrequests : after.requests = before.requests ++ [(request, false)]) :
    after.granted = before.granted := by
  simp [granted, hrequests]

end Requests

instance {Store : Type} [FileStore Store] [LawfulFileStore Store] :
    LawfulFileStore (Observed Store (String × ByteArray)) where
  read_of_write := by
    intro files changed path content hwrite
    have hread := LawfulFileStore.read_of_write (ask_cases hwrite).1
    exact hread

end Observed

namespace Host

variable {Input Display Sound Store : Type}

/-- A host whose devices and files are observed.  They take frames, the wish for the
tone, and the content of files. -/
abbrev ObservedHost (Input Display Sound Store : Type) : Type :=
  Host (Observed Input Unit) (Observed Display (List UInt8)) (Observed Sound Bool)
    (Observed Store (String × ByteArray))

/-- How a piece of work of such a host ended. -/
abbrev ObservedOutcome (Input Display Sound Store : Type) : Type :=
  Outcome (Observed Input Unit) (Observed Display (List UInt8)) (Observed Sound Bool)
    (Observed Store (String × ByteArray))

/-- The host with its devices and files observed from now on. -/
def observed (host : Host Input Display Sound Store) : ObservedHost Input Display Sound Store where
  machine := host.machine
  input := { device := host.input }
  display := { device := host.display }
  sound := { device := host.sound }
  files := { device := host.files }
  config := host.config
  sounding := host.sounding
  ticks := host.ticks
  journal := host.journal

/-- The host without what was observed. -/
def plain (host : ObservedHost Input Display Sound Store) : Host Input Display Sound Store where
  machine := host.machine
  input := host.input.device
  display := host.display.device
  sound := host.sound.device
  files := host.files.device
  config := host.config
  sounding := host.sounding
  ticks := host.ticks
  journal := host.journal

def Outcome.plain (outcome : ObservedOutcome Input Display Sound Store) :
    Outcome Input Display Sound Store :=
  ⟨outcome.result, outcome.host.plain⟩

/-- Whether a device has failed to do something, or a file could not be written. -/
def Refused (host : ObservedHost Input Display Sound Store) : Prop :=
  host.input.Refused ∨ host.display.Refused ∨ host.sound.Refused ∨ host.files.Refused

/-! ## Observing makes no difference -/

theorem plain_observed (host : Host Input Display Sound Store) : host.observed.plain = host := rfl

section Plain

variable (host : ObservedHost Input Display Sound Store)

theorem plain_andThen (outcome : ObservedOutcome Input Display Sound Store)
    {stage : ObservedHost Input Display Sound Store → ObservedOutcome Input Display Sound Store}
    {plainStage : Host Input Display Sound Store → Outcome Input Display Sound Store}
    (hstage : ∀ host, plainStage host.plain = (stage host).plain) :
    outcome.plain.andThen plainStage = (outcome.andThen stage).plain := by
  obtain ⟨result, host⟩ := outcome
  cases result with
  | error error => rfl
  | ok value => exact hstage host

theorem plain_pollKeys [InputDevice Input] : host.plain.pollKeys = host.pollKeys.plain := by
  simp only [pollKeys, InputDevice.poll, Observed.ask, plain, note]
  cases InputDevice.poll host.input.device with
  | mk result input =>
      cases result with
      | error error => rfl
      | ok mask => rfl

theorem plain_runInstructions (count : Nat) :
    host.plain.runInstructions count = (host.runInstructions count).plain := by
  induction count generalizing host with
  | zero => rfl
  | succ count ih =>
      have hmachine : host.plain.machine = host.machine := rfl
      rw [runInstructions, runInstructions, hmachine]
      by_cases hwaiting : host.machine.isWaiting = true
      · rw [if_pos hwaiting, if_pos hwaiting]
        rfl
      · rw [if_neg hwaiting, if_neg hwaiting]
        simp only [note, hmachine]
        cases host.machine.step with
        | error fault => rfl
        | ok next =>
            exact ih { host.note fun _ => host.machine.stepRecords with machine := next }

theorem plain_countTick : host.plain.countTick = host.countTick.plain := rfl

theorem plain_setTone [SoundDevice Sound] (on : Bool) :
    host.plain.setTone on = (host.setTone on).plain := by
  have hsound : host.plain.sound = host.sound.device := rfl
  cases on with
  | false =>
      simp only [setTone, SoundDevice.stop, Observed.ask, hsound]
      cases SoundDevice.stop host.sound.device with
      | mk result sound =>
          cases result with
          | error reason => rfl
          | ok value => rfl
  | true =>
      simp only [setTone, SoundDevice.start, Observed.ask, hsound]
      cases SoundDevice.start host.sound.device with
      | mk result sound =>
          cases result with
          | error reason => rfl
          | ok value => rfl

theorem plain_adjustTone [SoundDevice Sound] :
    host.plain.adjustTone = host.adjustTone.plain := by
  have hmachine : host.plain.machine = host.machine := rfl
  have hsounding : host.plain.sounding = host.sounding := rfl
  rw [adjustTone, adjustTone, hmachine, hsounding]
  split
  · rfl
  · exact host.plain_setTone _

theorem plain_showScreen [DisplayDevice Display] :
    host.plain.showScreen = host.showScreen.plain := by
  have hmachine : host.plain.machine = host.machine := rfl
  have hdisplay : host.plain.display = host.display.device := rfl
  rw [showScreen, showScreen, hmachine, hdisplay]
  split
  · simp only [DisplayDevice.draw, Observed.ask]
    cases DisplayDevice.draw host.display.device host.machine.screen.bytes with
    | mk result display =>
        cases result with
        | error error => rfl
        | ok value => rfl
  · rfl

theorem plain_keepFlags [FileStore Store] : host.plain.keepFlags = host.keepFlags.plain := by
  have hmachine : host.plain.machine = host.machine := rfl
  have hfiles : host.plain.files = host.files.device := rfl
  have hconfig : host.plain.config = host.config := rfl
  rw [keepFlags, keepFlags, hmachine, hconfig]
  split
  · cases host.config.flagsPath with
    | none => rfl
    | some path =>
        simp only [FlagFile.save, FileStore.write, Observed.ask, hfiles]
        cases FileStore.write host.files.device path
            (FlagFile.render host.machine.flags.packed).toUTF8 with
        | mk result files =>
            cases result with
            | error error => rfl
            | ok value => rfl
  · rfl

theorem plain_silence [SoundDevice Sound] : host.plain.silence = host.silence.plain := by
  have hsounding : host.plain.sounding = host.sounding := rfl
  rw [silence, silence, hsounding]
  split
  · exact host.plain_setTone false
  · rfl

variable [InputDevice Input] [DisplayDevice Display] [SoundDevice Sound] [FileStore Store]

theorem plain_runTick : host.plain.runTick = host.runTick.plain := by
  rw [runTick, runTick, plain_pollKeys, plain_andThen _ fun host => host.plain_runInstructions _,
    plain_andThen _ plain_countTick, plain_andThen _ fun host => host.plain_adjustTone,
    plain_andThen _ fun host => host.plain_showScreen,
    plain_andThen _ fun host => host.plain_keepFlags]
  rfl

theorem plain_runTicks (count : Nat) :
    host.plain.runTicks count = (host.runTicks count).plain := by
  have hquit : InputDevice.quitRequested host.plain.input
      = InputDevice.quitRequested host.input := rfl
  induction count generalizing host with
  | zero =>
      rw [runTicks, runTicks, hquit]
      split
      · rfl
      · rfl
  | succ count ih =>
      rw [runTicks, runTicks, hquit, plain_runTick]
      split
      · rfl
      · cases host.runTick with
        | mk result next =>
            cases result with
            | error error => rfl
            | ok value => exact ih next rfl

theorem plain_loopStarts (count : Nat) :
    (host.loopStarts count).map plain = host.plain.loopStarts count := by
  have hquit : InputDevice.quitRequested host.plain.input
      = InputDevice.quitRequested host.input := rfl
  induction count generalizing host with
  | zero => rfl
  | succ count ih =>
      rw [loopStarts, loopStarts, hquit, plain_runTick]
      split
      · rfl
      · cases host.runTick with
        | mk result next =>
            cases result with
            | error error => rfl
            | ok value => exact congrArg (host.plain :: ·) (ih next rfl)

theorem plain_mainLoop :
    host.plain.mainLoop = (host.mainLoop.1, host.mainLoop.2.plain) := by
  have hrun : host.plain.announce.runTicks host.plain.ticksLeft
      = (host.announce.runTicks host.ticksLeft).plain := host.announce.plain_runTicks _
  have hsilence : (host.announce.runTicks host.ticksLeft).host.plain.silence
      = (host.announce.runTicks host.ticksLeft).host.silence.plain := plain_silence _
  rw [mainLoop, mainLoop, hrun]
  simp only [Outcome.plain] at hsilence ⊢
  rw [hsilence]
  cases (host.announce.runTicks host.ticksLeft).host.silence with
  | mk result silent =>
      cases result with
      | error error => rfl
      | ok value => rfl

theorem plain_after (call : Call) : (host.after call).plain = host.plain.after call := by
  cases call with
  | runTick => exact congrArg Outcome.host host.plain_runTick.symm
  | mainLoop => exact congrArg Prod.snd host.plain_mainLoop.symm

theorem plain_starts (call : Call) : (host.starts call).map plain = host.plain.starts call := by
  cases call with
  | runTick => rfl
  | mainLoop => exact host.announce.plain_loopStarts host.ticksLeft

/-- Observed or not, a host comes to the same. -/
theorem plain_afterAll (calls : List Call) :
    (host.afterAll calls).plain = host.plain.afterAll calls := by
  induction calls generalizing host with
  | nil => rfl
  | cons call calls ih =>
      have hrest := ih (host.after call)
      rw [plain_after] at hrest
      exact hrest

/-- Observed or not, a host goes the same way. -/
theorem plain_allStarts (calls : List Call) :
    (host.allStarts calls).map plain = host.plain.allStarts calls := by
  induction calls generalizing host with
  | nil => rfl
  | cons call calls ih =>
      rw [allStarts, allStarts, List.map_append, plain_starts, ih, plain_after]

end Plain

end Host

end Chip8
