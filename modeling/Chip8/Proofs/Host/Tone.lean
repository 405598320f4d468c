import Mathlib.Data.List.Chain
import Chip8.Proofs.Host.EngineErrors
import Chip8.Proofs.Host.Refusals

/-!
# The tone

The host starts and stops the tone in turn, as far as the device does as it is told.
Whatever fails and when, what the host remembers of the tone is what the device was last
made to do.  So a tick that succeeds leaves the tone as the sound timer wants it, and a
run of the main loop leaves it off, unless it is the sound device that fails.
-/

namespace Chip8

namespace Observed

variable {Sound : Type}

/-- Whether the tone is on: the last request that was granted is one to start it. -/
def toneOn (sound : Observed Sound Bool) : Bool :=
  sound.granted.getLast?.getD false

/-- The requests that were granted start and stop the tone in turn, beginning with a
start. -/
def TakesTurns (sound : Observed Sound Bool) : Prop :=
  (false :: sound.granted).IsChain (· ≠ ·)

/-- Starts and stops in turn are as many of the one as of the other, except for a start
that no stop has followed yet. -/
theorem count_of_turns {first : Bool} {turns : List Bool}
    (hturns : (first :: turns).IsChain (· ≠ ·)) :
    turns.count true + first.toNat = turns.count false + (turns.getLast?.getD first).toNat := by
  induction turns generalizing first with
  | nil => simp
  | cons next rest ih =>
      obtain ⟨hne, hrest⟩ := List.isChain_cons_cons.mp hturns
      have hcount := ih hrest
      rw [List.getLast?_cons, Option.getD_some]
      -- the next one is the other of the two
      obtain rfl : first = !next := Bool.eq_not.mpr hne
      cases next with
      | false =>
          simp only [Bool.not_false, Bool.toNat_true, Bool.toNat_false] at hcount ⊢
          rw [List.count_cons_self, List.count_cons_of_ne (by decide)]
          omega
      | true =>
          simp only [Bool.not_true, Bool.toNat_true, Bool.toNat_false] at hcount ⊢
          rw [List.count_cons_self, List.count_cons_of_ne (by decide)]
          omega

theorem TakesTurns.count_eq {sound : Observed Sound Bool} (hturns : sound.TakesTurns)
    (hoff : sound.toneOn = false) : sound.granted.count true = sound.granted.count false := by
  have hcount := count_of_turns hturns
  have hlast : sound.granted.getLast?.getD false = false := hoff
  rw [hlast] at hcount
  exact hcount

end Observed

namespace Host

variable {Input Display Sound Store : Type}

/-! ## What the host knows of the tone -/

/-- The tone is started and stopped in turn, and the host knows whether it is on.  A
request that was refused last has left it as it was. -/
structure Tuned (host : ObservedHost Input Display Sound Store) : Prop where
  turns : host.sound.TakesTurns
  known : host.sounding = host.sound.toneOn
  refused : ∀ on, host.sound.requests.getLast? = some (on, false) → host.sounding ≠ on

variable {host : ObservedHost Input Display Sound Store}

theorem Tuned.of_same {before : ObservedHost Input Display Sound Store} (hbefore : Tuned before)
    (hsound : host.sound = before.sound) (hsounding : host.sounding = before.sounding) :
    Tuned host := by
  refine ⟨?_, ?_, ?_⟩
  · rw [hsound]
    exact hbefore.turns
  · rw [hsound, hsounding]
    exact hbefore.known
  · rw [hsound, hsounding]
    exact hbefore.refused

/-- At first nothing was asked, and the tone is off. -/
theorem tuned_observed {host : Host Input Display Sound Store} (hsilent : host.sounding = false) :
    Tuned host.observed :=
  ⟨List.isChain_singleton false, hsilent, by simp [observed]⟩

/-- The tone takes its next turn, or the device refuses and it stays as it is. -/
theorem tuned_setTone [SoundDevice Sound] (hhost : Tuned host) {on : Bool}
    (hother : host.sounding ≠ on) : Tuned (host.setTone on).host := by
  obtain ⟨sound, ⟨reason, htone, hset⟩ | ⟨htone, hset⟩⟩ := host.setTone_cases on
  · have hrequests := requests_of_tone htone
    have hgranted := Observed.granted_of_refused hrequests
    rw [hset]
    refine ⟨?_, ?_, ?_⟩
    · show (false :: sound.granted).IsChain (· ≠ ·)
      rw [hgranted]
      exact hhost.turns
    · show host.sounding = sound.granted.getLast?.getD false
      rw [hgranted]
      exact hhost.known
    · intro other hlast
      have hlast : sound.requests.getLast? = some (other, false) := hlast
      rw [hrequests, List.getLast?_append, List.getLast?_singleton, Option.some_or,
        Option.some.injEq, Prod.mk.injEq] at hlast
      rw [← hlast.1]
      exact hother
  · have hrequests := requests_of_tone htone
    have hgranted := Observed.granted_of_accepted hrequests
    rw [hset]
    refine ⟨?_, ?_, ?_⟩
    · show (false :: sound.granted).IsChain (· ≠ ·)
      rw [hgranted, ← List.cons_append, List.isChain_append]
      refine ⟨hhost.turns, List.isChain_singleton on, ?_⟩
      -- the turn before was the other one
      intro last hlast next hnext
      rw [List.getLast?_cons, Option.mem_some_iff] at hlast
      rw [List.head?_cons, Option.mem_some_iff] at hnext
      rw [← hlast, ← hnext]
      exact fun hsame => hother (hhost.known.trans hsame)
    · show on = sound.granted.getLast?.getD false
      rw [hgranted]
      simp
    · intro other hlast
      have hlast : sound.requests.getLast? = some (other, false) := hlast
      simp [hrequests, Except.isOk, Except.toBool] at hlast

section Ticks

variable [InputDevice Input] [DisplayDevice Display] [SoundDevice Sound] [FileStore Store]

/-- Nothing but the tone changes what the host knows of it. -/
theorem lasting_tuned : Lasting (Tuned : ObservedHost Input Display Sound Store → Prop) where
  journal _ _ hhost := hhost.of_same rfl rfl
  pollKeys host hhost :=
    hhost.of_same host.sameDevices_pollKeys.sound host.sameDevices_pollKeys.sounding
  step _ _ hhost _ := hhost.of_same rfl rfl
  countTick _ hhost := hhost.of_same rfl rfl
  setTone _ _ hother hhost := tuned_setTone hhost hother
  showScreen host hhost := by
    obtain ⟨display, screen, hshow⟩ := host.showScreen_host
    rw [hshow]
    exact hhost.of_same rfl rfl
  keepFlags host hhost := by
    obtain ⟨files, flags, journal, hkeep⟩ := host.keepFlags_host
    rw [hkeep]
    exact hhost.of_same rfl rfl

/-! ## Ticks -/

omit [FileStore Store] [DisplayDevice Display] in
/-- Up to the timers, the tone is left alone.  Then it is asked for what the sound timer
wants, unless it is that already. -/
theorem requests_toned (now : ObservedHost Input Display Sound Store) :
    (now.toned.host.sound = now.sound ∧
      (now.counted.result = .ok () → now.counted.host.machine.isSounding = now.sounding)) ∨
    (now.counted.result = .ok () ∧ now.counted.host.machine.isSounding ≠ now.sounding ∧
      ∃ accepted, now.toned.host.sound.requests
        = now.sound.requests ++ [(now.counted.host.machine.isSounding, accepted)]) := by
  have hsame := now.sameDevices_counted
  rw [toned]
  cases hcounted : now.counted.result with
  | error error =>
      rw [andThen_of_error hcounted]
      exact .inl ⟨hsame.sound, by simp⟩
  | ok value =>
      rw [result_andThen hcounted, ← hsame.sound, ← hsame.sounding]
      rcases now.counted.host.adjustTone_cases with ⟨hfollows, htone⟩ | ⟨hother, htone⟩
      · rw [htone]
        exact .inl ⟨rfl, fun _ => hfollows⟩
      · rw [htone]
        refine .inr ⟨rfl, hother, ?_⟩
        obtain ⟨sound, ⟨reason, hasked, hset⟩ | ⟨hasked, hset⟩⟩ :=
          now.counted.host.setTone_cases now.counted.host.machine.isSounding
        · rw [hset]
          exact ⟨false, requests_of_tone hasked⟩
        · rw [hset]
          exact ⟨true, requests_of_tone hasked⟩

omit [FileStore Store] [DisplayDevice Display] in
/-- If the tone can be adjusted, it is what the sound timer wants. -/
theorem sounding_toned {now : Host Input Display Sound Store}
    (hresult : now.toned.result = .ok ()) :
    now.toned.host.sounding = now.toned.host.machine.isSounding := by
  have hcounted : now.counted.result = .ok () := ok_of_andThen hresult
  rw [toned, result_andThen hcounted] at hresult ⊢
  rcases now.counted.host.adjustTone_cases with ⟨hfollows, htone⟩ | ⟨-, htone⟩
  · rw [htone]
    exact hfollows.symm
  · obtain ⟨sound, ⟨reason, -, hset⟩ | ⟨-, hset⟩⟩ :=
      now.counted.host.setTone_cases now.counted.host.machine.isSounding
    · rw [htone, hset] at hresult
      contradiction
    · rw [htone, hset]
      rfl

/-- Once the tone is adjusted, a tick leaves it alone, and the sound timer with it. -/
theorem runTick_of_toned (now : Host Input Display Sound Store) :
    now.runTick.host.sound = now.toned.host.sound ∧
      now.runTick.host.sounding = now.toned.host.sounding ∧
      now.runTick.host.machine.timers = now.toned.host.machine.timers := by
  obtain ⟨display, screen, hshown⟩ := now.shown_host
  rw [runTick_eq]
  unfold Outcome.andThen
  split
  · obtain ⟨files, flags, journal, hkeep⟩ := now.shown.host.keepFlags_host
    rw [hkeep, hshown]
    exact ⟨rfl, rfl, rfl⟩
  · rw [hshown]
    exact ⟨rfl, rfl, rfl⟩

/-- What a tick does about the tone. -/
structure KeepsTone (now : ObservedHost Input Display Sound Store) : Prop where
  /-- Wherever the tick has got to, the tone was started and stopped in turn. -/
  turns : ∀ point, now.Passes point → point.sound.TakesTurns
  /-- A tick that succeeds leaves the tone on exactly if the sound timer is running. -/
  follows : now.runTick.result = .ok () →
    (now.runTick.host.sound.granted.getLast? = some true ↔
      now.runTick.host.machine.timers.sound ≠ 0)
  /-- If the last request was refused, it is made again as soon as a tick gets there and
  the sound timer still wants it. -/
  again : ∀ on, now.sound.requests.getLast? = some (on, false) → now.counted.result = .ok () →
    now.counted.host.machine.isSounding = on → ∃ accepted,
      now.runTick.host.sound.requests = now.sound.requests ++ [(on, accepted)]
  /-- Nothing is asked, or once for what the sound timer wants.  This takes a tone that is
  not so yet. -/
  needed : now.runTick.host.sound = now.sound ∨
    (now.counted.result = .ok () ∧ now.counted.host.machine.isSounding ≠ now.sound.toneOn ∧
      ∃ accepted, now.runTick.host.sound.requests
        = now.sound.requests ++ [(now.counted.host.machine.isSounding, accepted)])

theorem keepsTone {now : ObservedHost Input Display Sound Store} (hnow : Tuned now) :
    KeepsTone now := by
  obtain ⟨hsound, hsounding, htimers⟩ := now.runTick_of_toned
  refine ⟨?_, ?_, ?_, ?_⟩
  · intro point hpoint
    exact (lasting_tuned.passes hnow hpoint).turns
  · intro hresult
    have htoned : now.toned.result = .ok () := by
      rw [runTick_eq] at hresult
      exact ok_of_andThen (ok_of_andThen hresult)
    have hknown := (lasting_tuned.runTick hnow).known
    rw [hsounding, sounding_toned htoned, Machine.isSounding, ← htimers] at hknown
    calc now.runTick.host.sound.granted.getLast? = some true
        ↔ now.runTick.host.sound.toneOn = true := by
          rw [Observed.toneOn]
          cases now.runTick.host.sound.granted.getLast? with
          | none => simp
          | some last => simp
      _ ↔ now.runTick.host.machine.timers.isSounding = true := by rw [hknown]
      _ ↔ now.runTick.host.machine.timers.sound ≠ 0 := by simp [Timers.isSounding]
  · intro on hrefused hcounted hwanted
    rw [hsound]
    rcases now.requests_toned with ⟨-, hfollows⟩ | ⟨-, -, hasked⟩
    · exact absurd ((hfollows hcounted).symm.trans hwanted) (hnow.refused on hrefused)
    · rw [hwanted] at hasked
      exact hasked
  · rw [hsound, ← hnow.known]
    rcases now.requests_toned with ⟨hsame, -⟩ | hasked
    · exact .inl hsame
    · exact .inr hasked

/-! ## Runs -/

/-- The tone follows the sound timer, whatever a program does, and whichever devices,
files and instructions fail.  At every time of any calls it was started and stopped in
turn; after every tick that succeeds it is on exactly if the sound timer is running; and
a run of the main loop leaves it off, unless it fails because of the sound device.  The
device is observed for this, which makes no difference to the run. -/
theorem tone_follows_timer (host : Host Input Display Sound Store)
    (hsilent : host.sounding = false) (calls : List Call) :
    (host.observed.allStarts calls).map plain = host.allStarts calls ∧
      (host.observed.afterAll calls).plain = host.afterAll calls ∧
      (host.observed.afterAll calls).sound.TakesTurns ∧
      (∀ now ∈ host.observed.allStarts calls, KeepsTone now) ∧
      (host.observed.afterAll calls).mainLoop.1 = (host.afterAll calls).mainLoop.1 ∧
      ((∃ reason, (host.observed.afterAll calls).mainLoop.1 = .error (.sound reason)) ∨
        (host.observed.afterAll calls).mainLoop.2.sound.toneOn = false ∧
          (host.observed.afterAll calls).mainLoop.2.sound.granted.count true
            = (host.observed.afterAll calls).mainLoop.2.sound.granted.count false) := by
  have hend := (History.start : History host.observed [] host.observed).afterAll calls
  have hplain := host.observed.plain_afterAll calls
  have hloop := (host.observed.afterAll calls).plain_mainLoop
  refine ⟨host.observed.plain_allStarts calls, hplain,
    (hend.lasting lasting_tuned (tuned_observed hsilent)).turns, ?_, ?_, ?_⟩
  · intro now hnow
    obtain ⟨past, future, hsplit⟩ := List.append_of_mem hnow
    have hpast := History.of_allStarts hsplit
    exact keepsTone (hpast.lasting lasting_tuned (tuned_observed hsilent))
  · rw [hplain, plain_observed] at hloop
    rw [hloop]
  · have htuned := hend.mainLoop.lasting lasting_tuned (tuned_observed hsilent)
    refine (endsSilenced _).sounding_eq.imp id ?_
    intro hoff
    have hoff : (host.observed.afterAll calls).mainLoop.2.sound.toneOn = false :=
      htuned.known.symm.trans hoff
    exact ⟨hoff, htuned.turns.count_eq hoff⟩

end Ticks

/-- The speaker refuses to start the tone and is asked again by the next tick.  The run
that follows ends while the sound timer is running, with the tone off. -/
theorem tone_follows_timer_refused : ∃ machine,
    Machine.load [0x60, 0x0A, 0xF0, 0x18, 0x12, 0x04] 0 0 = .ok machine ∧
      (beeping machine (· = 0)).sounding = false ∧
      ((beeping machine (· = 0)).observed.afterAll [.runTick, .runTick]).sound.requests
        = [(true, false), (true, true)] ∧
      KeepsTone (beeping machine (· = 0)).observed.runTick.host ∧
      ((beeping machine (· = 0)).observed.afterAll
        [.runTick, .runTick]).mainLoop.2.machine.isSounding = true ∧
      ((beeping machine (· = 0)).observed.afterAll
        [.runTick, .runTick]).mainLoop.2.sound.toneOn = false := by
  obtain ⟨machine, hload, hrequests, hrunning, hresult⟩ : ∃ machine,
      Machine.load [0x60, 0x0A, 0xF0, 0x18, 0x12, 0x04] 0 0 = .ok machine ∧
        ((beeping machine (· = 0)).observed.afterAll [.runTick, .runTick]).sound.requests
          = [(true, false), (true, true)] ∧
        ((beeping machine (· = 0)).observed.afterAll
          [.runTick, .runTick]).mainLoop.2.machine.isSounding = true ∧
        ((beeping machine (· = 0)).observed.afterAll [.runTick, .runTick]).mainLoop.1 = .ok 3 := by
    refine ⟨_, rfl, ?_⟩
    decide +kernel
  obtain ⟨-, -, -, hticks, -, hloop⟩ :=
    tone_follows_timer (beeping machine (· = 0)) rfl [.runTick, .runTick]
  refine ⟨machine, hload, rfl, hrequests, hticks _ ?_, hrunning, ?_⟩
  · exact List.mem_cons_of_mem _ List.mem_cons_self
  · rcases hloop with ⟨reason, hfailed⟩ | ⟨hoff, -⟩
    · rw [hresult] at hfailed
      contradiction
    · exact hoff

end Host

end Chip8
