import Chip8.Proofs.Host.Refusals
import Chip8.Proofs.Host.SavedFlags

/-!
# The flags at the end of a run

When a run of the main loop ends in which no device and no file fails, the file holds
the flags of the machine, unless it ends at an instruction that fails in a tick that
has stored to the flags.  That tick gets no further, and what it has stored is not
written.
-/

namespace Chip8

namespace Host

variable {Input Display Sound Store : Type}
variable [InputDevice Input] [DisplayDevice Display] [SoundDevice Sound] [FileStore Store]

/-! ## Ticks that succeed -/

section Kept

variable [LawfulFileStore Store] {path : String} {host now : Host Input Display Sound Store}
  {past : List (Host Input Display Sound Store)}

/-- After a tick that succeeds, the file holds the flags if it held them before or the
tick has stored to them. -/
theorem inFile_runTick (hpath : host.config.flagsPath = some path)
    (hresult : host.runTick.result = .ok ()) (hflags : InFile path host ∨ host.StoresFlags) :
    InFile path host.runTick.host := by
  obtain ⟨hfiles, hconfig, hshown⟩ := host.shown_same
  rw [← hconfig] at hpath
  rw [runTick_eq] at hresult ⊢
  cases hreached : host.shown.result with
  | error error =>
      rw [andThen_of_error hreached, hreached] at hresult
      contradiction
  | ok value =>
      rw [result_andThen hreached] at hresult ⊢
      by_cases hdirty : host.shown.host.machine.flags.dirty = true
      · exact inFile_keepFlags hpath hdirty hresult
      · have hkeep : host.shown.host.keepFlags = host.shown.host.done := if_neg hdirty
        rw [hkeep]
        rw [hshown] at hdirty
        rcases host.mark_counted Machine.flagsMark with ⟨-, hset⟩ | ⟨hnone, hsame⟩
        · exact absurd hset hdirty
        · have hfile : InFile path host := by
            refine hflags.resolve_right ?_
            rintro ⟨attempt, hattempt, hstores⟩
            exact hnone attempt hattempt hstores
          exact hfile.of_same hfiles (hshown.trans hsame)

/-- While ticks succeed, the file holds the flags once one of them has stored to them. -/
theorem History.inFile (hnow : History host past now) (hpath : host.config.flagsPath = some path)
    (hok : ∀ tick ∈ past, tick.runTick.result = .ok ())
    (hflags : InFile path host ∨ ∃ tick ∈ past, tick.StoresFlags) : InFile path now := by
  induction hnow with
  | start => exact hflags.resolve_right (by simp)
  | noted _ _ ih => exact (ih hok hflags).of_same rfl rfl
  | @silenced past now _ ih =>
      obtain ⟨sound, sounding, hsilence⟩ := now.silence_host
      rw [hsilence]
      exact (ih hok hflags).of_same rfl rfl
  | @ticked past now earlier ih =>
      simp only [List.mem_append, List.mem_singleton, or_imp, forall_and, forall_eq] at hok
      refine inFile_runTick (earlier.config ▸ hpath) hok.2 ?_
      rcases hflags with hfile | ⟨tick, htick, hstores⟩
      · exact .inl (ih hok.1 (.inl hfile))
      · rcases List.mem_append.mp htick with hpast | hlast
        · exact .inl (ih hok.1 (.inr ⟨tick, hpast, hstores⟩))
        · rw [List.mem_singleton.mp hlast] at hstores
          exact .inr hstores

end Kept

/-! ## Runs -/

/-- How a run of the main loop may end for the flags. -/
inductive EndsWithFlags (path : String) (host : Host Input Display Sound Store) : Prop
  /-- The user or the limit ends it, and the file holds the flags. -/
  | finished {ticks : Nat} (hresult : host.mainLoop.1 = .ok ticks)
      (hfile : InFile path host.mainLoop.2)
  /-- An instruction fails, and the file holds the flags unless the last tick has stored
  to them.  If it has, they are still marked, and the file is as it was before. -/
  | failed {earlier : List (Host Input Display Sound Store)}
      {last : Host Input Display Sound Store} {fault : Fault}
      (hstarts : host.starts .mainLoop = earlier ++ [last])
      (hresult : host.mainLoop.1 = .error (.engine fault host.mainLoop.2.machine.counter
        host.mainLoop.2.machine.word))
      (hkept : ¬ last.StoresFlags → InFile path host.mainLoop.2)
      (hlost : last.StoresFlags → host.mainLoop.2.machine.flags.dirty = true ∧
        host.mainLoop.2.files = last.files ∧
        ((∃ tick ∈ earlier, tick.StoresFlags) → InFile path last))

theorem endsWithFlags_of_granted [LawfulFileStore Store] {path : String}
    {host : ObservedHost Input Display Sound Store}
    (hpath : host.config.flagsPath = some path) (hgranted : ¬ host.mainLoop.2.Refused)
    (hstores : ∃ tick ∈ host.starts .mainLoop, tick.StoresFlags) : EndsWithFlags path host := by
  have hhistory : History host (host.starts .mainLoop)
      (host.announce.runTicks host.ticksLeft).host :=
    (History.start.noted host.announce.journal).runTicks host.ticksLeft
  obtain ⟨hrun, ⟨ticks, hresult⟩, sound, sounding, journal, hend⟩ :=
    host.mainLoop_of_granted hgranted
  rcases host.announce.runTicks_cases host.ticksLeft with
    ⟨hok, hall⟩ | ⟨earlier, last, error, hstarts, hall, hlast, hticks⟩
  · have hfinished : host.mainLoop.1 = .ok ticks := by rw [hresult, hok]; rfl
    refine .finished hfinished ?_
    rw [hend]
    exact (hhistory.inFile hpath hall (.inr hstores)).of_same rfl rfl
  · -- the last tick ends before the files, and those before it have kept the flags
    have hstarts : host.starts .mainLoop = earlier ++ [last] := hstarts
    have hbefore : History host (earlier ++ [last]) _ := hstarts ▸ hhistory
    have hfile := hbefore.of_append.inFile hpath hall
    rw [hticks] at hrun hresult hend
    obtain ⟨hcounted, fault, hfault⟩ := last.runTick_of_error hrun hlast
    have hfiles : host.mainLoop.2.files = last.files := by
      rw [hend, hcounted]
      exact last.sameDevices_counted.files
    have hmachine : host.mainLoop.2.machine = last.counted.host.machine := by rw [hend, hcounted]
    have hfailed : host.mainLoop.1 = .error (.engine fault host.mainLoop.2.machine.counter
        host.mainLoop.2.machine.word) := by
      rw [hresult, hlast, hfault, hend]
      rfl
    refine .failed hstarts hfailed ?_ ?_
    · intro hnone
      have hsame : last.counted.host.machine.flags = last.machine.flags := by
        rcases last.mark_counted Machine.flagsMark with ⟨hset, -⟩ | ⟨-, hsame⟩
        · exact absurd hset hnone
        · exact hsame
      obtain ⟨tick, htick, hset⟩ := hstores
      have htick : tick ∈ earlier ++ [last] := hstarts ▸ htick
      rcases List.mem_append.mp htick with hpast | hlast
      · have hheld : InFile path last := hfile (.inr ⟨tick, hpast, hset⟩)
        exact hheld.of_same hfiles ((congrArg Machine.flags hmachine).trans hsame)
      · rw [List.mem_singleton.mp hlast] at hset
        exact absurd hset hnone
    · intro hset
      refine ⟨?_, hfiles, fun hpast => hfile (.inr hpast)⟩
      rw [hmachine]
      exact (last.isSet_counted Machine.flagsMark).mpr (.inr hset)

/-- Observing makes no difference to this. -/
theorem EndsWithFlags.plain {path : String} {host : ObservedHost Input Display Sound Store}
    (hends : EndsWithFlags path host) : EndsWithFlags path host.plain := by
  have hresult : host.plain.mainLoop.1 = host.mainLoop.1 := congrArg Prod.fst host.plain_mainLoop
  have hend : host.plain.mainLoop.2 = host.mainLoop.2.plain := congrArg Prod.snd host.plain_mainLoop
  cases hends with
  | @finished ticks hfinished hfile =>
      refine .finished (hresult.trans hfinished) ?_
      rw [hend]
      exact inFile_plain.mpr hfile
  | @failed earlier last fault hstarts hfailed hkept hlost =>
      have hsplit : host.plain.starts .mainLoop = earlier.map Host.plain ++ [last.plain] := by
        rw [← host.plain_starts, hstarts, List.map_append, List.map_singleton]
      have hfailed : host.plain.mainLoop.1 = .error (.engine fault
          host.plain.mainLoop.2.machine.counter host.plain.mainLoop.2.machine.word) := by
        rw [hresult, hfailed, hend]
        rfl
      refine .failed hsplit hfailed ?_ ?_
      · rw [hend]
        exact fun hnone => inFile_plain.mpr (hkept hnone)
      · intro hstores
        obtain ⟨hdirty, hfiles, hearlier⟩ := hlost hstores
        rw [hend]
        refine ⟨hdirty, congrArg Observed.device hfiles, ?_⟩
        rintro ⟨tick, htick, hset⟩
        obtain ⟨tick, hmem, rfl⟩ := List.mem_map.mp htick
        exact inFile_plain.mpr (hearlier ⟨tick, hmem, hset⟩)

/-- If no device and no file fails while the main loop runs, then however it ends, the
file holds the flags of the machine once something was stored to them, unless this was
done by the tick in which an instruction fails. -/
theorem mainLoop_keeps_flags [LawfulFileStore Store] (host : Host Input Display Sound Store)
    (path : String) (hpath : host.config.flagsPath = some path)
    (hgranted : ¬ host.observed.mainLoop.2.Refused)
    (hstores : ∃ tick ∈ host.starts .mainLoop, tick.StoresFlags) :
    host.observed.mainLoop.2.plain = host.mainLoop.2 ∧ EndsWithFlags path host := by
  refine ⟨(congrArg Prod.snd host.observed.plain_mainLoop).symm, ?_⟩
  have hobserved : ∃ tick ∈ host.observed.starts .mainLoop, tick.StoresFlags := by
    obtain ⟨tick, htick, hset⟩ := hstores
    rw [← host.plain_observed, ← host.observed.plain_starts] at htick
    obtain ⟨tick, hmem, rfl⟩ := List.mem_map.mp htick
    exact ⟨tick, hmem, hset⟩
  exact (endsWithFlags_of_granted hpath hgranted hobserved).plain

/-! ## A program that stores and fails -/

/-- A host that keeps the flags of a machine in a file, and all of whose devices work. -/
def storing (machine : Machine) : Host MaskPlayback FrameRecorder Mute FileTable where
  machine := machine
  input := ⟨[]⟩
  display := {}
  sound := {}
  files := {}
  config := { instructionsPerTick := 10, flagsPath := some "flags.json", maxTicks := some 3 }

/-- A flag is stored, and the program goes on until the limit. -/
theorem mainLoop_keeps_flags_store : ∃ machine,
    Machine.load [0x60, 0x2A, 0xF0, 0x75, 0x12, 0x04] 0 0 = .ok machine ∧
      (storing machine).config.flagsPath = some "flags.json" ∧
      ¬ (storing machine).observed.mainLoop.2.Refused ∧
      (∃ tick ∈ (storing machine).starts .mainLoop, tick.StoresFlags) ∧
      EndsWithFlags "flags.json" (storing machine) := by
  refine ⟨_, rfl, rfl, ?_, ?_, (mainLoop_keeps_flags _ "flags.json" rfl ?_ ?_).2⟩
  all_goals decide +kernel

/-- A flag is stored, and the next word is no instruction: no device fails, and yet the
file does not hold what was stored. -/
theorem flags_lost_with_fault : ∃ machine,
    Machine.load [0x60, 0x2A, 0xF0, 0x75, 0x00, 0xFF] 0 0 = .ok machine ∧
      ¬ (storing machine).observed.mainLoop.2.Refused ∧
      (∃ tick ∈ (storing machine).starts .mainLoop, tick.StoresFlags) ∧
      ¬ InFile "flags.json" (storing machine).mainLoop.2 := by
  refine ⟨_, rfl, ?_⟩
  decide +kernel

end Host

end Chip8
