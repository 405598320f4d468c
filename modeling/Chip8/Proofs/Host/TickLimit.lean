import Chip8.Device.Script
import Chip8.Device.Speaker
import Chip8.FileTable
import Chip8.Proofs.Host.Calls

/-!
# Runs with a limit

Under a limit on the ticks, a run of the main loop cannot go on for ever.  A tick counts
as soon as it has counted the timers down, also if it fails later, and a tick that fails
before that ends its run.  So each tick of a run either brings the count closer to the
limit or is the last one.  The count goes on from run to run.
-/

namespace Chip8

namespace Host

variable {Input Display Sound Store : Type}

/-! ## Ticks that count -/

theorem ticks_runInstructions (host : Host Input Display Sound Store) (count : Nat) :
    (host.runInstructions count).host.ticks = host.ticks := by
  induction count generalizing host with
  | zero => rfl
  | succ count ih =>
      rcases host.runInstructions_cases count with
        ⟨_, hrun⟩ | ⟨_, journal, ⟨_, _, hrun⟩ | ⟨next, _, hrun⟩⟩
      · rw [hrun]
        rfl
      · rw [hrun]
        rfl
      · rw [hrun, ih]

theorem ticks_silence [SoundDevice Sound] (host : Host Input Display Sound Store) :
    host.silence.host.ticks = host.ticks := by
  obtain ⟨sound, sounding, hsilence⟩ := host.silence_host
  rw [hsilence]

section Ticks

variable [InputDevice Input]

/-- The tick that starts at a host gets as far as the timers. -/
def counts (host : Host Input Display Sound Store) : Bool :=
  host.counted.result.isOk

theorem ticks_stepped (host : Host Input Display Sound Store) (count : Nat) :
    (host.stepped count).host.ticks = host.ticks := by
  have hpolled : host.pollKeys.host.ticks = host.ticks := by
    rcases host.pollKeys_cases with ⟨_, _, _, _, hpolled⟩ | ⟨_, _, _, _, hpolled⟩
    · rw [hpolled]
      rfl
    · rw [hpolled]
      rfl
  exact host_andThen hpolled fun now hnow => (now.ticks_runInstructions count).trans hnow

end Ticks

variable [InputDevice Input] [DisplayDevice Display] [SoundDevice Sound] [FileStore Store]

/-- What comes after the timers does not change the count. -/
theorem ticks_after_counted (host : Host Input Display Sound Store) :
    host.runTick.host.ticks = host.counted.host.ticks := by
  have htoned : host.toned.host.ticks = host.counted.host.ticks := by
    obtain ⟨sound, sounding, htoned⟩ := host.toned_host
    rw [htoned]
  have hshown : host.shown.host.ticks = host.counted.host.ticks := by
    obtain ⟨display, screen, hshown⟩ := host.shown_host
    rw [hshown]
    exact htoned
  have hkept : ∀ now : Host Input Display Sound Store, now.ticks = host.counted.host.ticks →
      now.keepFlags.host.ticks = host.counted.host.ticks := by
    intro now hnow
    obtain ⟨files, flags, journal, hkept⟩ := now.keepFlags_host
    rw [hkept]
    exact hnow
  rw [runTick_eq]
  exact host_andThen hshown hkept

theorem ticks_runTick (host : Host Input Display Sound Store) :
    host.runTick.host.ticks = host.ticks + if host.counts then 1 else 0 := by
  rw [ticks_after_counted, counts]
  cases hresult : host.counted.result with
  | error error =>
      rw [counted_of_error hresult, ticks_stepped]
      rfl
  | ok done =>
      have hstepped : (host.stepped host.config.instructionsPerTick).result = .ok () :=
        ok_of_andThen hresult
      rw [counted, result_andThen hstepped]
      exact congrArg (· + 1) (host.ticks_stepped _)

theorem ticks_of_ticked {host : Host Input Display Sound Store}
    (hticked : host.runTick.result = .ok ()) : host.runTick.host.ticks = host.ticks + 1 := by
  have hcounted : host.counted.result = .ok () := by
    rw [runTick_eq] at hticked
    exact ok_of_andThen (ok_of_andThen (ok_of_andThen hticked))
  rw [ticks_runTick, counts, hcounted]
  rfl

theorem ticks_of_history {host now : Host Input Display Sound Store}
    {past : List (Host Input Display Sound Store)} (hnow : History host past now) :
    now.ticks = host.ticks + past.countP counts := by
  induction hnow with
  | start => rfl
  | noted _ _ ih => exact ih
  | @silenced past now _ ih => rw [ticks_silence, ih]
  | @ticked past now _ ih =>
      rw [ticks_runTick, ih, List.countP_append, List.countP_singleton, Nat.add_assoc]

/-! ## The loop and how it ends -/

/-- How a loop goes on under a limit, with the hosts at which its ticks start.  Before each
tick it looks at the wish to stop and at the limit, in this order, and it ends with a tick
that fails. -/
inductive Loops (limit : Nat) : Host Input Display Sound Store →
    List (Host Input Display Sound Store) → Outcome Input Display Sound Store → Prop
  | quit {host} (hquit : InputDevice.quitRequested host.input = true) :
      Loops limit host [] host.done
  | limited {host} (hgoes : InputDevice.quitRequested host.input = false)
      (hlimit : limit ≤ host.ticks) :
      Loops limit host [] (host.note fun _ => [⟨.debug, "tick limit reached"⟩]).done
  | failed {host} {error : HostError} (hgoes : InputDevice.quitRequested host.input = false)
      (hbelow : host.ticks < limit) (hfails : host.runTick.result = .error error) :
      Loops limit host [host] host.runTick
  | ticked {host starts run} (hgoes : InputDevice.quitRequested host.input = false)
      (hbelow : host.ticks < limit) (hticked : host.runTick.result = .ok ())
      (hrest : Loops limit host.runTick.host starts run) : Loops limit host (host :: starts) run

/-- The next call of the main loop stops when it should: it starts no more ticks than are
left, and if it returns a count, this is the count of the host and there was a reason to
stop. -/
structure StopsUnder (limit : Nat) (host : Host Input Display Sound Store) : Prop where
  loops : ∃ run, Loops limit host.announce (host.starts .mainLoop) run ∧
    EndsSilenced run host.mainLoop
  few : (host.starts .mainLoop).length ≤ limit - host.ticks
  returned : ∀ count, host.mainLoop.1 = .ok count → count = host.mainLoop.2.ticks ∧
    count ≤ max limit host.ticks ∧
    (limit ≤ count ∨ InputDevice.quitRequested host.mainLoop.2.input = true)

/-! ## One run -/

/-- The loop has enough turns to get to the limit. -/
theorem loops_runTicks {limit : Nat} (host : Host Input Display Sound Store) (count : Nat)
    (hcount : count = limit - host.ticks) :
    Loops limit host (host.loopStarts count) (host.runTicks count) := by
  induction count generalizing host with
  | zero =>
      rw [loopStarts, runTicks]
      cases hquit : InputDevice.quitRequested host.input with
      | true => exact .quit hquit
      | false => exact .limited hquit (Nat.le_of_sub_eq_zero hcount.symm)
  | succ count ih =>
      have hbelow : host.ticks < limit := by omega
      rw [loopStarts, runTicks]
      cases hquit : InputDevice.quitRequested host.input with
      | true => exact .quit hquit
      | false =>
          rw [if_neg Bool.false_ne_true, if_neg Bool.false_ne_true]
          cases htick : host.runTick with
          | mk result next =>
              have hresult : host.runTick.result = result := by rw [htick]
              cases result with
              | error error =>
                  have hfailed := Loops.failed hquit hbelow hresult
                  rw [htick] at hfailed
                  exact hfailed
              | ok done =>
                  have hnext : host.runTick.host = next := by rw [htick]
                  have hticks : next.ticks = host.ticks + 1 := by
                    rw [← hnext, ticks_of_ticked hresult]
                  refine .ticked hquit hbelow hresult ?_
                  rw [hnext]
                  exact ih next (by omega)

namespace Loops

variable {limit : Nat} {host : Host Input Display Sound Store}
  {starts : List (Host Input Display Sound Store)} {run : Outcome Input Display Sound Store}

/-- Each tick but the last one counts, so there are no more of them than are left. -/
theorem length_le (hloops : Loops limit host starts run) :
    starts.length ≤ limit - host.ticks := by
  induction hloops with
  | quit _ => exact Nat.zero_le _
  | limited _ _ => exact Nat.zero_le _
  | failed _ hbelow _ => exact Nat.sub_pos_of_lt hbelow
  | ticked _ hbelow hticked _ ih =>
      rw [ticks_of_ticked hticked] at ih
      rw [List.length_cons]
      omega

theorem ticks_le (hloops : Loops limit host starts run) :
    run.host.ticks ≤ max limit host.ticks := by
  induction hloops with
  | quit _ => exact Nat.le_max_right _ _
  | limited _ _ => exact Nat.le_max_right _ _
  | @failed host error _ hbelow _ =>
      have hticks := host.ticks_runTick
      split at hticks
      · omega
      · omega
  | ticked _ hbelow hticked _ ih =>
      rw [ticks_of_ticked hticked] at ih
      omega

/-- A loop that does not fail ends for one of two reasons. -/
theorem reason (hloops : Loops limit host starts run) (hok : run.result = .ok ()) :
    limit ≤ run.host.ticks ∨ InputDevice.quitRequested run.host.input = true := by
  induction hloops with
  | quit hquit => exact .inr hquit
  | limited _ hlimit => exact .inl hlimit
  | failed _ _ hfails =>
      rw [hfails] at hok
      contradiction
  | ticked _ _ _ _ ih => exact ih hok

end Loops

/-! ## Runs of the main loop -/

section Runs

variable {limit : Nat} {host : Host Input Display Sound Store}

theorem loops_mainLoop (hlimit : host.config.maxTicks = some limit) :
    Loops limit host.announce (host.starts .mainLoop)
      (host.announce.runTicks host.ticksLeft) := by
  have hleft : host.ticksLeft = limit - host.announce.ticks := by
    rw [ticksLeft, hlimit]
    rfl
  exact loops_runTicks host.announce host.ticksLeft hleft

theorem ticks_mainLoop_le (hlimit : host.config.maxTicks = some limit) :
    host.mainLoop.2.ticks ≤ max limit host.ticks := by
  rw [host.endsSilenced.ticks_eq]
  exact (loops_mainLoop hlimit).ticks_le

theorem stopsUnder (hlimit : host.config.maxTicks = some limit) : host.StopsUnder limit where
  loops := ⟨_, loops_mainLoop hlimit, host.endsSilenced⟩
  few := (loops_mainLoop hlimit).length_le
  returned := by
    intro count hcount
    obtain ⟨hok, rfl⟩ := host.endsSilenced.of_ok hcount
    refine ⟨rfl, ticks_mainLoop_le hlimit, ?_⟩
    rw [host.endsSilenced.ticks_eq, host.endsSilenced.input_eq]
    exact (loops_mainLoop hlimit).reason hok

/-- Runs of the main loop do not count beyond the limit, however many of them fail. -/
theorem ticks_afterAll_le (hlimit : host.config.maxTicks = some limit) (calls : List Call)
    (hcalls : ∀ call ∈ calls, call = .mainLoop) :
    (host.afterAll calls).ticks ≤ max limit host.ticks := by
  induction calls generalizing host with
  | nil => exact Nat.le_max_right _ _
  | cons call calls ih =>
      obtain rfl := hcalls call List.mem_cons_self
      have hconfig : host.mainLoop.2.config = host.config :=
        (History.start : History host [] host).mainLoop.config
      have hrest := ih (hconfig ▸ hlimit) fun other hother =>
        hcalls other (List.mem_cons_of_mem _ hother)
      have hfirst := ticks_mainLoop_le hlimit
      exact Nat.le_trans hrest (Nat.max_le.mpr ⟨Nat.le_max_left _ _, hfirst⟩)

/-- Under a limit, every run of the main loop stops, whatever was done before and whatever
the devices do: it starts no more ticks than are left, ends when it should, and goes on
from the count of those before it, to which each tick adds that got as far as the
timers. -/
theorem mainLoop_stops_under_limit (hlimit : host.config.maxTicks = some limit)
    (calls : List Call) :
    (host.afterAll calls).StopsUnder limit ∧
      (host.afterAll calls).ticks = host.ticks + (host.allStarts calls).countP counts ∧
      ((∀ call ∈ calls, call = .mainLoop) →
        (host.afterAll calls).ticks ≤ max limit host.ticks) := by
  have hnow := (History.start : History host [] host).afterAll calls
  refine ⟨stopsUnder (hnow.config ▸ hlimit), ?_, ticks_afterAll_le hlimit calls⟩
  exact ticks_of_history hnow

end Runs

/-- A host with a machine, and with a display that is broken. -/
def dark (machine : Machine) : Host MaskPlayback BreakingDisplay Mute FileTable where
  machine := machine
  input := ⟨[]⟩
  display := ⟨0⟩
  sound := {}
  files := {}
  config := { instructionsPerTick := 3, maxTicks := some 3 }

/-- Each tick turns the tone on and then fails at the display, but counts.  After two runs,
which have turned the tone off again, there is one tick left. -/
theorem mainLoop_stops_under_limit_dark : ∃ machine,
    Machine.load [0x00, 0xE0, 0x60, 0x0A, 0xF0, 0x18, 0x12, 0x06] 0 0 = .ok machine ∧
      (dark machine).config.maxTicks = some 3 ∧
      (dark machine).mainLoop.1.isOk = false ∧
      ((dark machine).announce.runTicks 3).host.sounding = true ∧
      ((dark machine).afterAll [.mainLoop, .mainLoop]).sounding = false ∧
      ((dark machine).afterAll [.mainLoop, .mainLoop]).sound = ⟨2, 2⟩ ∧
      ((dark machine).afterAll [.mainLoop, .mainLoop]).ticks = 2 ∧
      ((dark machine).afterAll [.mainLoop, .mainLoop]).StopsUnder 3 := by
  obtain ⟨machine, hload, hfails, hon, hoff, hsound, hcounts⟩ : ∃ machine,
      Machine.load [0x00, 0xE0, 0x60, 0x0A, 0xF0, 0x18, 0x12, 0x06] 0 0 = .ok machine ∧
        (dark machine).mainLoop.1.isOk = false ∧
        ((dark machine).announce.runTicks 3).host.sounding = true ∧
        ((dark machine).afterAll [.mainLoop, .mainLoop]).sounding = false ∧
        ((dark machine).afterAll [.mainLoop, .mainLoop]).sound = ⟨2, 2⟩ ∧
        ((dark machine).allStarts [.mainLoop, .mainLoop]).countP counts = 2 := by
    refine ⟨_, rfl, ?_⟩
    decide +kernel
  have hlimit : (dark machine).config.maxTicks = some 3 := rfl
  obtain ⟨hstops, hticks, -⟩ :=
    mainLoop_stops_under_limit hlimit [.mainLoop, .mainLoop]
  refine ⟨machine, hload, hlimit, hfails, hon, hoff, hsound, ?_, hstops⟩
  rw [hticks, hcounts]
  rfl

end Host

end Chip8
