import Chip8.Proofs.Host.Stages

/-!
# Sequences of calls

A host is used by ticks and by runs of the main loop, in any order.  Either way it
does its work in ticks.  `allStarts` lists the hosts at which these start, and
`History` says how they follow each other.
-/

namespace Chip8

namespace Host

variable {Input Display Sound Store : Type}

/-! ## How runs of the main loop end -/

section Ends

variable [SoundDevice Sound]

/-- How a call of the main loop ends when its ticks have ended: a tone that is on is turned
off.  If the device refuses this, that is the error of the call, and else it ends as the
ticks did. -/
inductive EndsSilenced (run : Outcome Input Display Sound Store) :
    Except HostError Nat × Host Input Display Sound Store → Prop
  | silent (hsilent : run.host.sounding = false) (journal : Journal) :
      EndsSilenced run
        (run.result.map fun _ => run.host.ticks, { run.host with journal := journal })
  | stopped (hsounding : run.host.sounding = true) {sound : Sound}
      (hstop : SoundDevice.stop run.host.sound = (.ok (), sound)) (journal : Journal) :
      EndsSilenced run (run.result.map fun _ => run.host.ticks,
        { run.host with sound := sound, sounding := false, journal := journal })
  | refused (hsounding : run.host.sounding = true) {sound : Sound} {reason : String}
      (hstop : SoundDevice.stop run.host.sound = (.error reason, sound)) :
      EndsSilenced run (.error (.sound reason), { run.host with sound := sound })

namespace EndsSilenced

variable {run : Outcome Input Display Sound Store}
  {ended : Except HostError Nat × Host Input Display Sound Store}

theorem ticks_eq (hends : EndsSilenced run ended) : ended.2.ticks = run.host.ticks := by
  cases hends with
  | silent | stopped | refused => rfl

theorem input_eq (hends : EndsSilenced run ended) : ended.2.input = run.host.input := by
  cases hends with
  | silent | stopped | refused => rfl

/-- A call that returns a count has not failed in a tick, and the count is that of the
host. -/
theorem of_ok {count : Nat} (hends : EndsSilenced run ended) (hresult : ended.1 = .ok count) :
    run.result = .ok () ∧ count = ended.2.ticks := by
  cases hends with
  | silent | stopped =>
      cases hrun : run.result with
      | ok done =>
          rw [hrun] at hresult
          exact ⟨rfl, (Except.ok.inj hresult).symm⟩
      | error error =>
          rw [hrun] at hresult
          contradiction
  | refused => contradiction

/-- The tone is off, unless the device is to blame. -/
theorem sounding_eq (hends : EndsSilenced run ended) :
    (∃ reason, ended.1 = .error (.sound reason)) ∨ ended.2.sounding = false := by
  cases hends with
  | silent hsilent journal => exact .inr hsilent
  | stopped hsounding hstop journal => exact .inr rfl
  | refused hsounding hstop => exact .inl ⟨_, rfl⟩

end EndsSilenced

end Ends

variable [InputDevice Input] [DisplayDevice Display] [SoundDevice Sound] [FileStore Store]

/-! ## Calls -/

/-- What a host is used for. -/
inductive Call where
  | runTick
  | mainLoop
  deriving DecidableEq

/-- The host after a call, whether this succeeds or fails. -/
def after (host : Host Input Display Sound Store) : Call → Host Input Display Sound Store
  | .runTick => host.runTick.host
  | .mainLoop => host.mainLoop.2

/-- The host after one call after the other. -/
def afterAll (host : Host Input Display Sound Store) (calls : List Call) :
    Host Input Display Sound Store :=
  calls.foldl after host

/-- A run of the main loop ends with the tone turned off.  If that fails, the run fails
for this reason, and else it ends as its ticks did. -/
theorem mainLoop_cases (host : Host Input Display Sound Store) :
    (∃ error,
      (host.announce.runTicks host.ticksLeft).host.silence.result = .error error ∧
      host.mainLoop = (.error error, (host.announce.runTicks host.ticksLeft).host.silence.host)) ∨
    ((host.announce.runTicks host.ticksLeft).host.silence.result = .ok () ∧ ∃ journal,
      host.mainLoop = ((host.announce.runTicks host.ticksLeft).result.map fun _ =>
          (host.announce.runTicks host.ticksLeft).host.silence.host.ticks,
        { (host.announce.runTicks host.ticksLeft).host.silence.host with
          journal := journal })) := by
  cases hsilence : (host.announce.runTicks host.ticksLeft).host.silence with
  | mk result silent =>
      cases result with
      | error error =>
          refine .inl ⟨error, rfl, ?_⟩
          simp only [mainLoop, hsilence]
      | ok value =>
          refine .inr ⟨rfl, (silent.note fun _ =>
            [⟨.info, "stopped after " ++ Nat.repr silent.ticks ++ " ticks"⟩]).journal, ?_⟩
          simp only [mainLoop, hsilence]
          rfl

theorem endsSilenced (host : Host Input Display Sound Store) :
    EndsSilenced (host.announce.runTicks host.ticksLeft) host.mainLoop := by
  have hloop := host.mainLoop_cases
  generalize host.announce.runTicks host.ticksLeft = run at hloop ⊢
  rcases run.host.silence_cases with
    ⟨hsilent, hdone⟩ | ⟨hsounding, sound, ⟨reason, hstop, hfailed⟩ | ⟨hstop, hdone⟩⟩
  · rw [hdone] at hloop
    rcases hloop with ⟨error, hresult, -⟩ | ⟨-, journal, hend⟩
    · contradiction
    · rw [hend]
      exact .silent hsilent journal
  · rw [hfailed] at hloop
    rcases hloop with ⟨error, hresult, hend⟩ | ⟨hresult, -⟩
    · cases hresult
      rw [hend]
      exact .refused hsounding hstop
    · contradiction
  · rw [hdone] at hloop
    rcases hloop with ⟨error, hresult, -⟩ | ⟨-, journal, hend⟩
    · contradiction
    · rw [hend]
      exact .stopped hsounding hstop journal

/-! ## Where ticks start -/

/-- The hosts at which the ticks of a run start, if there are at most so many. -/
def loopStarts (host : Host Input Display Sound Store) :
    Nat → List (Host Input Display Sound Store)
  | 0 => []
  | count + 1 =>
      if InputDevice.quitRequested host.input then []
      else host :: match host.runTick with
        | ⟨.ok (), next⟩ => next.loopStarts count
        | ⟨.error _, _⟩ => []

/-- The hosts at which the ticks of a call start. -/
def starts (host : Host Input Display Sound Store) : Call → List (Host Input Display Sound Store)
  | .runTick => [host]
  | .mainLoop => host.announce.loopStarts host.ticksLeft

/-- The hosts at which the ticks of all calls start. -/
def allStarts (host : Host Input Display Sound Store) :
    List Call → List (Host Input Display Sound Store)
  | [] => []
  | call :: calls => host.starts call ++ (host.after call).allStarts calls

/-- Either all ticks of a run succeed, or the last one fails and the run with it. -/
theorem runTicks_cases (host : Host Input Display Sound Store) (count : Nat) :
    ((host.runTicks count).result = .ok () ∧
      ∀ start ∈ host.loopStarts count, start.runTick.result = .ok ()) ∨
    ∃ earlier last error, host.loopStarts count = earlier ++ [last] ∧
      (∀ start ∈ earlier, start.runTick.result = .ok ()) ∧
      last.runTick.result = .error error ∧ host.runTicks count = last.runTick := by
  induction count generalizing host with
  | zero =>
      refine .inl ⟨?_, by simp [loopStarts]⟩
      rw [runTicks]
      split
      · rfl
      · rfl
  | succ count ih =>
      rw [runTicks, loopStarts]
      split
      · exact .inl ⟨rfl, by simp⟩
      · cases htick : host.runTick with
        | mk result next =>
            have hresult : host.runTick.result = result := by rw [htick]
            cases result with
            | error error =>
                refine .inr ⟨[], host, error, rfl, by simp, hresult, ?_⟩
                rw [htick]
                rfl
            | ok value =>
                rcases ih next with
                  ⟨hrun, hall⟩ | ⟨earlier, last, error, hstarts, hall, hlast, hrun⟩
                · exact .inl ⟨hrun, List.forall_mem_cons.mpr ⟨hresult, hall⟩⟩
                · refine .inr ⟨host :: earlier, last, error, ?_,
                    List.forall_mem_cons.mpr ⟨hresult, hall⟩, hlast, hrun⟩
                  exact congrArg (host :: ·) hstarts

/-! ## Histories -/

/-- What a host may come to in a number of ticks, which have started at the hosts of
the list.  Between them, the host only reports to the log and turns the tone off. -/
inductive History (host : Host Input Display Sound Store) :
    List (Host Input Display Sound Store) → Host Input Display Sound Store → Prop
  | start : History host [] host
  | noted {past now} (earlier : History host past now) (journal : Journal) :
      History host past { now with journal := journal }
  | silenced {past now} (earlier : History host past now) : History host past now.silence.host
  | ticked {past now} (earlier : History host past now) :
      History host (past ++ [now]) now.runTick.host

namespace History

variable {host now : Host Input Display Sound Store}
  {past : List (Host Input Display Sound Store)}

/-- Each tick starts when those before it have happened. -/
theorem of_append {next : Host Input Display Sound Store}
    {future : List (Host Input Display Sound Store)}
    (hnow : History host (past ++ next :: future) now) : History host past next := by
  generalize hall : past ++ next :: future = all at hnow
  induction hnow generalizing future with
  | start => simp at hall
  | noted _ _ ih => exact ih hall
  | silenced _ ih => exact ih hall
  | ticked earlier ih =>
      -- the tick is the last one, or one of those before
      rcases List.eq_nil_or_concat future with rfl | ⟨future, last, rfl⟩
      · obtain ⟨rfl, hlast⟩ := List.append_inj' hall rfl
        cases hlast
        exact earlier
      · rw [List.concat_eq_append, ← List.cons_append, ← List.append_assoc] at hall
        exact ih (List.append_inj' hall rfl).1

/-- The ticks of a run have happened when it ends. -/
theorem runTicks (hnow : History host past now) (count : Nat) :
    History host (past ++ now.loopStarts count) (now.runTicks count).host := by
  induction count generalizing past now with
  | zero =>
      rw [loopStarts, List.append_nil, Host.runTicks]
      split
      · exact hnow
      · exact hnow.noted _
  | succ count ih =>
      rw [loopStarts, Host.runTicks]
      split
      · rw [List.append_nil]
        exact hnow
      · have hticked := hnow.ticked
        cases htick : now.runTick with
        | mk result next =>
            rw [htick] at hticked
            cases result with
            | error error => exact hticked
            | ok value =>
                rw [List.append_cons]
                exact ih hticked

theorem mainLoop (hnow : History host past now) :
    History host (past ++ now.announce.loopStarts now.ticksLeft) now.mainLoop.2 := by
  have hannounced : History host past now.announce := hnow.noted _
  have hsilenced := (hannounced.runTicks now.ticksLeft).silenced
  rcases now.mainLoop_cases with ⟨_, -, hloop⟩ | ⟨-, journal, hloop⟩
  · rw [hloop]
    exact hsilenced
  · rw [hloop]
    exact hsilenced.noted journal

theorem after (hnow : History host past now) (call : Call) :
    History host (past ++ now.starts call) (now.after call) := by
  cases call with
  | runTick => exact hnow.ticked
  | mainLoop => exact hnow.mainLoop

theorem afterAll (hnow : History host past now) (calls : List Call) :
    History host (past ++ now.allStarts calls) (now.afterAll calls) := by
  induction calls generalizing past now with
  | nil =>
      rw [allStarts, List.append_nil]
      exact hnow
  | cons call calls ih =>
      rw [allStarts, ← List.append_assoc]
      exact ih (hnow.after call)

/-- Each tick of some calls starts when those before it have happened. -/
theorem of_allStarts {calls : List Call} {future : List (Host Input Display Sound Store)}
    (hsplit : host.allStarts calls = past ++ now :: future) : History host past now := by
  have hall := (start : History host [] host).afterAll calls
  rw [List.nil_append, hsplit] at hall
  exact hall.of_append

theorem config (hnow : History host past now) : now.config = host.config := by
  induction hnow with
  | start => rfl
  | noted _ _ ih => exact ih
  | @silenced past now _ ih =>
      obtain ⟨sound, sounding, hsilence⟩ := now.silence_host
      rw [hsilence]
      exact ih
  | @ticked past now _ ih => exact now.follows_runTick.config.trans ih

/-- What lasts through ticks is true at every time. -/
theorem lasting {Good : Host Input Display Sound Store → Prop} (hlasting : Lasting Good)
    (hhost : Good host) (hnow : History host past now) : Good now := by
  induction hnow with
  | start => exact hhost
  | noted _ journal ih => exact hlasting.journal _ journal ih
  | silenced _ ih => exact hlasting.silence ih
  | ticked _ ih => exact hlasting.runTick ih

end History

end Host

end Chip8
