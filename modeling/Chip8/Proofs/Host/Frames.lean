import Chip8.Device.Script
import Chip8.Device.Speaker
import Chip8.FileTable
import Chip8.Proofs.Host.Pending
import Chip8.Proofs.Raw.FrameBuffer

/-!
# No frame is lost

Whatever fails and when, a screen without a mark is the screen that the display has
accepted.  A frame that the display refuses leaves the mark, so that it is offered
again, and nothing is offered that has not been painted since.

A frame is the packed form of the screen.  That it has the pixels of the screen, eight to a
byte, comes from the packed buffer, whose bytes are this form.
-/

namespace Chip8

namespace Observed

variable {Display : Type}

/-- The last frame that the display has accepted.  Before there is one, it is blank. -/
def picture (display : Observed Display (List UInt8)) : List UInt8 :=
  display.granted.getLast?.getD Screen.blank.bytes

/-- The picture is that of a screen, in the bytes of the buffer that has its pixels. -/
structure Shows (display : Observed Display (List UInt8)) (screen : Screen) : Prop where
  picture_eq : display.picture = screen.bytes
  packed : ∃ buffer : Raw.FrameBuffer, buffer.view = screen ∧
    display.picture = buffer.bytes.toList

theorem shows_iff {display : Observed Display (List UInt8)} {screen : Screen} :
    display.Shows screen ↔ display.picture = screen.bytes := by
  constructor
  · exact Shows.picture_eq
  · intro hpicture
    have hview := Raw.FrameBuffer.view_ofScreen screen
    refine ⟨hpicture, .ofScreen screen, hview, ?_⟩
    calc display.picture = screen.bytes := hpicture
      _ = (Raw.FrameBuffer.ofScreen screen).view.bytes := by rw [hview]
      _ = (Raw.FrameBuffer.ofScreen screen).bytes.toList := Raw.FrameBuffer.view_bytes _

/-- The last frame was refused. -/
def LastRefused (display : Observed Display (List UInt8)) : Prop :=
  ∃ frame, display.requests.getLast? = some (frame, false)

end Observed

namespace Host

variable {Input Display Sound Store : Type}

/-! ## The picture -/

/-- What is shown is the screen, unless this is marked, and it is marked if the display
has refused it. -/
structure Showing (host : ObservedHost Input Display Sound Store) : Prop where
  current : host.machine.screen.dirty = false → host.display.picture = host.machine.screen.bytes
  refused : host.display.LastRefused → host.machine.screen.dirty = true

variable {host : ObservedHost Input Display Sound Store}

theorem Showing.of_marked (hdirty : host.machine.screen.dirty = true) : Showing host :=
  ⟨fun hclean => by simp [hclean] at hdirty, fun _ => hdirty⟩

theorem Showing.of_same {before : ObservedHost Input Display Sound Store}
    (hbefore : Showing before) (hdisplay : host.display = before.display)
    (hscreen : host.machine.screen = before.machine.screen) : Showing host := by
  refine ⟨?_, ?_⟩
  · rw [hdisplay, hscreen]
    exact hbefore.current
  · rw [hdisplay, hscreen]
    exact hbefore.refused

/-- At first the screen is as blank as the display. -/
theorem showing_observed {program : List UInt8} {seed flags : UInt64}
    {host : Host Input Display Sound Store}
    (hload : Machine.load program seed flags = .ok host.machine) : Showing host.observed := by
  have hscreen : host.machine.screen = Screen.blank := (Machine.unmarked_of_load hload).1
  refine ⟨?_, ?_⟩
  · intro _
    show Screen.blank.bytes = host.machine.screen.bytes
    rw [hscreen]
  · rintro ⟨frame, hframe⟩
    simp [observed] at hframe

theorem showing_showScreen [DisplayDevice Display] (hhost : Showing host) :
    Showing host.showScreen.host := by
  rcases host.showScreen_cases with
    ⟨-, hshow⟩ | ⟨hdirty, display, ⟨error, hdraw, hshow⟩ | ⟨hdraw, hshow⟩⟩
  · rw [hshow]
    exact hhost
  · rw [hshow]
    exact .of_marked hdirty
  · have hrequests := (Observed.ask_cases hdraw).2
    rw [hshow]
    refine ⟨?_, ?_⟩
    · intro _
      show display.picture = host.machine.screen.bytes
      rw [Observed.picture, Observed.granted_of_accepted hrequests]
      simp
    · rintro ⟨frame, hframe⟩
      have hframe : display.requests.getLast? = some (frame, false) := hframe
      rw [hrequests] at hframe
      simp [Except.isOk, Except.toBool] at hframe

section Ticks

variable [InputDevice Input] [DisplayDevice Display] [SoundDevice Sound] [FileStore Store]

theorem lasting_showing :
    Lasting (Showing : ObservedHost Input Display Sound Store → Prop) := by
  refine lasting_of_mark Machine.screenMark ?_ ?_ ?_ ?_
  · intro before after hbefore _ hdisplay _ hscreen
    exact hbefore.of_same hdisplay hscreen
  · intro before next _ hset
    exact .of_marked hset
  · intro host hhost
    exact showing_showScreen hhost
  · intro host hhost
    obtain ⟨files, flags, journal, hkeep⟩ := host.keepFlags_host
    rw [hkeep]
    exact hhost.of_same rfl rfl

omit [InputDevice Input] [DisplayDevice Display] [SoundDevice Sound] in
theorem display_andThen_keepFlags (outcome : ObservedOutcome Input Display Sound Store) :
    (outcome.andThen keepFlags).host.display = outcome.host.display ∧
      (outcome.andThen keepFlags).host.machine.screen = outcome.host.machine.screen := by
  unfold Outcome.andThen
  split
  · obtain ⟨files, flags, journal, hkeep⟩ := outcome.host.keepFlags_host
    rw [hkeep]
    exact ⟨rfl, rfl⟩
  · exact ⟨rfl, rfl⟩

/-- A tick offers the screen to the display if it gets that far and the screen is
marked. -/
theorem offered_frame (now : ObservedHost Input Display Sound Store) :
    Offered (now.toned.result = .ok ()) now.counted.host.machine.screen.bytes now.display
      now.runTick.host.display now.counted.host.machine.screen.dirty
      now.runTick.host.machine.screen.dirty (now.runTick.result = .ok ()) := by
  obtain ⟨sound, sounding, htoned⟩ := now.toned_host
  have hdisplay : now.toned.host.display = now.display := by
    rw [htoned]
    exact now.sameDevices_counted.display
  have hmachine : now.toned.host.machine = now.counted.host.machine := by rw [htoned]
  rw [← hdisplay, ← hmachine, runTick_eq, shown]
  cases hreached : now.toned.result with
  | error error =>
      rw [andThen_of_error hreached, andThen_of_error hreached, hreached]
      exact .idle (.inr ⟨by simp, by simp⟩) rfl rfl
  | ok value =>
      rw [result_andThen hreached]
      obtain ⟨hlater, hscreen⟩ := display_andThen_keepFlags now.toned.host.showScreen
      rw [hlater, hscreen]
      rcases now.toned.host.showScreen_cases with
        ⟨hclean, hshow⟩ | ⟨hdirty, display, ⟨error, hdraw, hshow⟩ | ⟨hdraw, hshow⟩⟩
      · rw [hshow]
        exact .idle (.inl hclean) rfl rfl
      · rw [hshow]
        exact .refused rfl hdirty (Observed.ask_cases hdraw).2 hdirty
          (by simp [failed, Outcome.andThen])
      · rw [hshow]
        exact .accepted rfl hdirty (Observed.ask_cases hdraw).2 rfl

/-- The screen is handed over to the display. -/
theorem handsOver_screen {program : List UInt8} {seed flags : UInt64}
    {host : Host Input Display Sound Store}
    (hload : Machine.load program seed flags = .ok host.machine) :
    HandsOver host.observed Machine.screenMark Host.display where
  start := by
    show host.machine.screen.dirty = false
    rw [(Machine.unmarked_of_load hload).1]
    rfl
  noted _ _ := rfl
  toned _ _ _ := rfl
  offered {_ now} _ := ⟨_, _, now.offered_frame⟩

/-! ## Frames -/

/-- What a tick does about the screen, after ticks that have started at the hosts of a
list. -/
structure KeepsFrames (past : List (ObservedHost Input Display Sound Store))
    (now : ObservedHost Input Display Sound Store) : Prop where
  /-- Wherever the tick has got to, the picture is the screen unless this is marked. -/
  current : ∀ point, now.Passes point → point.machine.screen.dirty = false →
    point.display.Shows point.machine.screen
  /-- A tick that succeeds leaves the screen on the display. -/
  shown : now.runTick.result = .ok () →
    now.runTick.host.display.Shows now.runTick.host.machine.screen
  /-- If the last frame was refused, the screen is offered as soon as a tick gets there. -/
  again : now.display.LastRefused → now.toned.result = .ok () → ∃ accepted,
    now.runTick.host.display.requests
      = now.display.requests ++ [(now.toned.host.machine.screen.bytes, accepted)]
  /-- Nothing is offered, or the screen once.  This takes an instruction that has painted
  since the last frame was accepted. -/
  needed : now.runTick.host.display = now.display ∨
    (now.toned.result = .ok () ∧
      (∃ accepted, now.runTick.host.display.requests
        = now.display.requests ++ [(now.toned.host.machine.screen.bytes, accepted)]) ∧
      ∃ earlier ∈ past ++ [now],
        earlier.Paints ∧ earlier.display.granted = now.display.granted)

theorem keepsFrames {program : List UInt8} {seed flags : UInt64}
    {host : Host Input Display Sound Store}
    (hload : Machine.load program seed flags = .ok host.machine)
    {past : List (ObservedHost Input Display Sound Store)}
    {now : ObservedHost Input Display Sound Store} (hnow : History host.observed past now) :
    KeepsFrames past now := by
  have hshowing : Showing now := hnow.lasting lasting_showing (showing_observed hload)
  have hoffered := now.offered_frame
  have hscreen : now.toned.host.machine = now.counted.host.machine := by
    obtain ⟨sound, sounding, htoned⟩ := now.toned_host
    rw [htoned]
  refine ⟨?_, ?_, ?_, ?_⟩
  · intro point hpoint hclean
    exact Observed.shows_iff.mpr ((lasting_showing.passes hshowing hpoint).current hclean)
  · intro hresult
    exact Observed.shows_iff.mpr
      ((lasting_showing.runTick hshowing).current (hoffered.left_of_succeeded hresult))
  · intro hrefused hreached
    -- the refused frame has left the mark, which instructions do not clear
    have hmarked := (now.isSet_counted Machine.screenMark).mpr (.inl (hshowing.refused hrefused))
    rw [hscreen]
    rcases hoffered.requests_cases with ⟨-, hidle⟩ | ⟨-, hasked⟩
    · exact absurd ⟨hreached, hmarked⟩ hidle
    · exact hasked
  · rw [hscreen]
    rcases hoffered.requests_cases with ⟨hsame, -⟩ | ⟨⟨hreached, hmarked⟩, hasked⟩
    · exact .inl hsame
    · exact .inr ⟨hreached, hasked,
        ((handsOver_screen hload).pending_counted_iff hnow).mp hmarked⟩

/-- No frame is lost, whatever a program does, and whichever devices, files and
instructions fail: at every time of any calls, a screen without a mark is the last
frame that the display has accepted, or as blank as the display still is.  The display
is observed for this, which makes no difference to the run. -/
theorem no_frame_lost {program : List UInt8} {seed flags : UInt64}
    (host : Host Input Display Sound Store)
    (hload : Machine.load program seed flags = .ok host.machine) (calls : List Call) :
    (host.observed.allStarts calls).map plain = host.allStarts calls ∧
      (host.observed.afterAll calls).plain = host.afterAll calls ∧
      ((host.observed.afterAll calls).machine.screen.dirty = false →
        (host.observed.afterAll calls).display.Shows
          (host.observed.afterAll calls).machine.screen) ∧
      ∀ past now future, host.observed.allStarts calls = past ++ now :: future →
        KeepsFrames past now := by
  have hend := (History.start : History host.observed [] host.observed).afterAll calls
  refine ⟨host.observed.plain_allStarts calls, host.observed.plain_afterAll calls, ?_, ?_⟩
  · intro hclean
    exact Observed.shows_iff.mpr
      ((hend.lasting lasting_showing (showing_observed hload)).current hclean)
  · intro past now future hsplit
    exact keepsFrames hload (.of_allStarts hsplit)

end Ticks

/-- A host whose display is broken. -/
def unseen (machine : Machine) : Host MaskPlayback BreakingDisplay Mute FileTable where
  machine := machine
  input := ⟨[]⟩
  display := ⟨0⟩
  sound := {}
  files := {}
  config := { instructionsPerTick := 2, maxTicks := some 3 }

/-- The screen is cleared, and the display refuses this: the next tick will offer it
again. -/
theorem no_frame_lost_clear : ∃ machine,
    Machine.load [0x00, 0xE0, 0x12, 0x02] 1 2 = .ok machine ∧
      (unseen machine).observed.runTick.host.display.requests.map (·.2) = [false] ∧
      ((unseen machine).observed.afterAll [.runTick, .mainLoop]).plain
        = (unseen machine).afterAll [.runTick, .mainLoop] ∧
      KeepsFrames [(unseen machine).observed] (unseen machine).observed.runTick.host := by
  obtain ⟨machine, hload, hrefused⟩ : ∃ machine,
      Machine.load [0x00, 0xE0, 0x12, 0x02] 1 2 = .ok machine ∧
        (unseen machine).observed.runTick.host.display.requests.map (·.2) = [false] := by
    refine ⟨_, rfl, ?_⟩
    decide +kernel
  refine ⟨machine, hload, hrefused,
    (no_frame_lost (unseen machine) hload [.runTick, .mainLoop]).2.1, ?_⟩
  exact (no_frame_lost (unseen machine) hload [.runTick, .runTick]).2.2.2 _ _ [] rfl

end Host

end Chip8
