import Chip8.Proofs.Host.Pending

/-!
# Refusals

Outside of the machine, nothing fails unless a device or a file does.  A tick in
which none of them does either succeeds or ends at an instruction that fails, and
then it has got no further.
-/

namespace Chip8

namespace Observed

variable {Device Request : Type}

/-- How many requests have failed. -/
def refusals (observed : Observed Device Request) : Nat :=
  observed.requests.countP fun request => !request.2

theorem refused_iff (observed : Observed Device Request) :
    observed.Refused ↔ 0 < observed.refusals := by
  simp [Refused, refusals]

instance (observed : Observed Device Request) : Decidable observed.Refused :=
  decidable_of_iff _ observed.refused_iff.symm

section Requests

variable {before after : Observed Device Request} {request : Request}

theorem refusals_of_accepted (hrequests : after.requests = before.requests ++ [(request, true)]) :
    after.refusals = before.refusals := by
  simp [refusals, hrequests]

theorem refusals_of_refused (hrequests : after.requests = before.requests ++ [(request, false)]) :
    after.refusals = before.refusals + 1 := by
  simp [refusals, hrequests]

end Requests

end Observed

namespace Host

variable {Input Display Sound Store : Type}

/-- How often a device has failed to do something, or a file could not be written. -/
def refusals (host : ObservedHost Input Display Sound Store) : Nat :=
  host.input.refusals + host.display.refusals + host.sound.refusals + host.files.refusals

theorem refused_iff (host : ObservedHost Input Display Sound Store) :
    host.Refused ↔ 0 < host.refusals := by
  rw [Refused, Observed.refused_iff, Observed.refused_iff, Observed.refused_iff,
    Observed.refused_iff, refusals]
  omega

instance (host : ObservedHost Input Display Sound Store) : Decidable host.Refused :=
  decidable_of_iff _ host.refused_iff.symm

/-- Work that fails if and only if a device does in the course of it, and then once. -/
def FailsByDevice (host : ObservedHost Input Display Sound Store)
    (outcome : ObservedOutcome Input Display Sound Store) : Prop :=
  outcome.host.refusals = host.refusals + match outcome.result with
    | .ok _ => 0
    | .error _ => 1

namespace FailsByDevice

variable {host : ObservedHost Input Display Sound Store}
  {outcome : ObservedOutcome Input Display Sound Store}

theorem andThen
    {stage : ObservedHost Input Display Sound Store → ObservedOutcome Input Display Sound Store}
    (houtcome : FailsByDevice host outcome) (hstage : ∀ host, FailsByDevice host (stage host)) :
    FailsByDevice host (outcome.andThen stage) := by
  cases hresult : outcome.result with
  | error error =>
      rw [andThen_of_error hresult]
      exact houtcome
  | ok value =>
      have hsame : outcome.host.refusals = host.refusals := by
        rw [FailsByDevice, hresult] at houtcome
        exact houtcome
      rw [result_andThen hresult, FailsByDevice, ← hsame]
      exact hstage outcome.host

theorem refused (houtcome : FailsByDevice host outcome) {error : HostError}
    (hresult : outcome.result = .error error) : outcome.host.Refused := by
  rw [FailsByDevice, hresult] at houtcome
  rw [refused_iff, houtcome]
  exact Nat.succ_pos _

theorem lasts (houtcome : FailsByDevice host outcome) (hhost : host.Refused) :
    outcome.host.Refused := by
  rw [refused_iff] at hhost ⊢
  rw [houtcome]
  exact Nat.lt_of_lt_of_le hhost (Nat.le_add_right _ _)

end FailsByDevice

/-! ## Stages -/

section Stages

variable (host : ObservedHost Input Display Sound Store)

theorem failsByDevice_pollKeys [InputDevice Input] : FailsByDevice host host.pollKeys := by
  rcases host.pollKeys_cases with
    ⟨_, input, journal, hpoll, hpolled⟩ | ⟨_, input, journal, hpoll, hpolled⟩
  · have hrefused := Observed.refusals_of_refused (Observed.ask_cases hpoll).2
    rw [hpolled]
    simp only [FailsByDevice, failed, refusals, hrefused]
    omega
  · have haccepted := Observed.refusals_of_accepted (Observed.ask_cases hpoll).2
    rw [hpolled]
    simp only [FailsByDevice, done, refusals, haccepted, Nat.add_zero]

/-- Starting and stopping the tone are requests alike. -/
theorem requests_of_tone [SoundDevice Sound] {sound after : Observed Sound Bool} {on : Bool}
    {result : Except String Unit}
    (htone : (if on then SoundDevice.start sound else SoundDevice.stop sound) = (result, after)) :
    after.requests = sound.requests ++ [(on, result.isOk)] := by
  cases on with
  | false => exact (Observed.ask_cases htone).2
  | true => exact (Observed.ask_cases htone).2

theorem failsByDevice_setTone [SoundDevice Sound] (on : Bool) :
    FailsByDevice host (host.setTone on) := by
  obtain ⟨sound, ⟨reason, htone, hset⟩ | ⟨htone, hset⟩⟩ := host.setTone_cases on
  · have hrefused := Observed.refusals_of_refused (requests_of_tone htone)
    rw [hset]
    simp only [FailsByDevice, failed, refusals, hrefused]
    omega
  · have haccepted := Observed.refusals_of_accepted (requests_of_tone htone)
    rw [hset]
    simp only [FailsByDevice, done, refusals, haccepted, Nat.add_zero]

theorem failsByDevice_showScreen [DisplayDevice Display] :
    FailsByDevice host host.showScreen := by
  rcases host.showScreen_cases with
    ⟨-, hshow⟩ | ⟨-, display, ⟨error, hdraw, hshow⟩ | ⟨hdraw, hshow⟩⟩
  · rw [hshow]
    rfl
  · have hrefused := Observed.refusals_of_refused (Observed.ask_cases hdraw).2
    rw [hshow]
    simp only [FailsByDevice, failed, refusals, hrefused]
    omega
  · have haccepted := Observed.refusals_of_accepted (Observed.ask_cases hdraw).2
    rw [hshow]
    simp only [FailsByDevice, done, refusals, haccepted, Nat.add_zero]

theorem failsByDevice_keepFlags [FileStore Store] : FailsByDevice host host.keepFlags := by
  rcases host.keepFlags_cases with ⟨-, hkeep⟩ | ⟨-, ⟨-, hkeep⟩ |
    ⟨_, files, journal, -, ⟨_, hsave, hkeep⟩ | ⟨hsave, hkeep⟩⟩⟩
  · rw [hkeep]
    rfl
  · rw [hkeep]
    rfl
  · obtain ⟨_, hwrite, -⟩ | ⟨-, hresult⟩ := FlagFile.save_cases hsave
    · have hrefused := Observed.refusals_of_refused (Observed.ask_cases hwrite).2
      rw [hkeep]
      simp only [FailsByDevice, failed, refusals, hrefused]
      omega
    · contradiction
  · obtain ⟨_, -, hresult⟩ | ⟨hwrite, -⟩ := FlagFile.save_cases hsave
    · contradiction
    · have haccepted := Observed.refusals_of_accepted (Observed.ask_cases hwrite).2
      rw [hkeep]
      simp only [FailsByDevice, done, refusals, haccepted, Nat.add_zero]

theorem failsByDevice_adjustTone [SoundDevice Sound] : FailsByDevice host host.adjustTone := by
  rcases host.adjustTone_cases with ⟨-, htone⟩ | ⟨-, htone⟩
  · rw [htone]
    rfl
  · rw [htone]
    exact host.failsByDevice_setTone _

theorem failsByDevice_silence [SoundDevice Sound] : FailsByDevice host host.silence := by
  unfold silence
  split
  · exact host.failsByDevice_setTone false
  · rfl

/-- Up to the timers, a tick fails by the input device or at an instruction. -/
theorem fault_of_counted [InputDevice Input] {now : ObservedHost Input Display Sound Store}
    {error : HostError}
    (hresult : now.counted.result = .error error) : now.counted.host.Refused ∨
      ∃ fault, error = .engine fault now.counted.host.machine.counter
        now.counted.host.machine.word := by
  have hsame := counted_of_error hresult
  rw [hsame] at hresult ⊢
  rcases now.stepped_cases now.config.instructionsPerTick with
    ⟨io, -, hpolled, hfailed, -⟩ | ⟨mask, -, -, hsteps⟩
  · rw [hpolled] at hfailed ⊢
    exact .inl (now.failsByDevice_pollKeys.refused hfailed)
  · rw [hsteps] at hresult
    split at hresult
    · contradiction
    · next fault hfailure => exact .inr ⟨fault, (Except.error.inj hresult).symm⟩

end Stages

section Ticks

variable [InputDevice Input] [DisplayDevice Display] [SoundDevice Sound] [FileStore Store]

/-- That a device has failed stays on record. -/
theorem lasting_refused : Lasting (Refused : ObservedHost Input Display Sound Store → Prop) where
  journal _ _ hhost := hhost
  pollKeys host := host.failsByDevice_pollKeys.lasts
  step _ _ hhost _ := hhost
  countTick _ hhost := hhost
  setTone host on _ := (host.failsByDevice_setTone on).lasts
  showScreen host := host.failsByDevice_showScreen.lasts
  keepFlags host := host.failsByDevice_keepFlags.lasts

/-- Where no device fails, a tick that does ends at an instruction. -/
theorem runTick_of_error (now : ObservedHost Input Display Sound Store) {error : HostError}
    (hgranted : ¬ now.runTick.host.Refused) (hresult : now.runTick.result = .error error) :
    now.runTick = now.counted ∧ ∃ fault, error = .engine fault
      now.runTick.host.machine.counter now.runTick.host.machine.word := by
  cases hcounted : now.counted.result with
  | ok value =>
      have hcounted : FailsByDevice now.counted.host now.counted := by
        rw [FailsByDevice, hcounted]
        rfl
      have htoned : FailsByDevice now.counted.host now.toned :=
        hcounted.andThen fun host => host.failsByDevice_adjustTone
      have hshown : FailsByDevice now.counted.host now.shown :=
        htoned.andThen fun host => host.failsByDevice_showScreen
      have hkept : FailsByDevice now.counted.host now.runTick := by
        rw [runTick_eq]
        exact hshown.andThen fun host => host.failsByDevice_keepFlags
      exact absurd (hkept.refused hresult) hgranted
  | error other =>
      have hsame := runTick_of_counted hcounted
      rw [hsame] at hgranted hresult ⊢
      refine ⟨rfl, ?_⟩
      rcases fault_of_counted hresult with hrefused | hfault
      · exact absurd hrefused hgranted
      · exact hfault

/-- A run in which no device fails ends as its ticks do, and with the host that these
leave, but for the tone. -/
theorem mainLoop_of_granted (host : ObservedHost Input Display Sound Store)
    (hgranted : ¬ host.mainLoop.2.Refused) :
    ¬ (host.announce.runTicks host.ticksLeft).host.Refused ∧
      (∃ ticks, host.mainLoop.1
        = (host.announce.runTicks host.ticksLeft).result.map fun _ => ticks) ∧
      ∃ sound sounding journal, host.mainLoop.2
        = { (host.announce.runTicks host.ticksLeft).host with
            sound := sound
            sounding := sounding
            journal := journal } := by
  obtain ⟨sound, sounding, hsilence⟩ := (host.announce.runTicks host.ticksLeft).host.silence_host
  rcases host.mainLoop_cases with ⟨error, hfailed, hloop⟩ | ⟨-, journal, hloop⟩
  · rw [hloop] at hgranted
    exact absurd ((failsByDevice_silence _).refused hfailed) hgranted
  · rw [hloop] at hgranted ⊢
    refine ⟨fun hrefused => hgranted (lasting_refused.silence hrefused), ⟨_, rfl⟩, ?_⟩
    exact ⟨sound, sounding, journal, by rw [hsilence]⟩

end Ticks

end Host

end Chip8
