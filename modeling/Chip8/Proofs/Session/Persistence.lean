import Chip8.Proofs.Host.LastFlags
import Chip8.Proofs.Machine.FlagTrace
import Chip8.Session

/-!
# Flags outlive a run

If the runs of a chain keep their flags in the same file, each starts with the flags that
the one before it has ended with.  So a flag that is restored in one of them holds what
was last stored in it, be it in the same run or in an earlier one, and if nothing ever was,
what the file held at first.
-/

namespace Chip8

open FlagRegisters (byteOf byteOf_packed registerOf)
open Machine (FlagTrace lastStored?)

/-! ## Ticks -/

namespace Host

variable {Input Display Sound Store : Type}

theorem flagTrace_counted [InputDevice Input] (host : Host Input Display Sound Store) :
    FlagTrace host.machine.flags.bytes host.attempts host.counted.host.machine.flags.bytes := by
  have hcounted : host.counted.host.machine.flags
      = (host.stepped host.config.instructionsPerTick).host.machine.flags :=
    part_andThen_countTick Machine.flagsMark _
  rw [hcounted, attempts]
  rcases host.stepped_cases host.config.instructionsPerTick with
    ⟨error, hpoll, -, -, hmachine⟩ | ⟨mask, hpoll, hmachine, -⟩
  · rw [hpoll, hmachine]
    exact .nil _
  · have hkeys : (host.machine.setKeys mask).flags = host.machine.flags :=
      Machine.flagsMark.part_setKeys host.machine mask
    rw [hpoll, hmachine, ← hkeys]
    exact (host.machine.setKeys mask).flagTrace_attempts 0 host.config.instructionsPerTick

theorem bytes_keepFlags [FileStore Store] (host : Host Input Display Sound Store) :
    host.keepFlags.host.machine.flags.bytes = host.machine.flags.bytes := by
  rcases host.keepFlags_cases with ⟨-, hkeep⟩ | ⟨-, ⟨-, hkeep⟩ |
    ⟨_, _, _, -, ⟨_, -, hkeep⟩ | ⟨-, hkeep⟩⟩⟩
  all_goals
    rw [hkeep]
    rfl

section Ticks

variable [InputDevice Input] [DisplayDevice Display] [SoundDevice Sound] [FileStore Store]

/-- The flags after a tick come from its instructions alone. -/
theorem flagTrace_runTick (host : Host Input Display Sound Store) :
    FlagTrace host.machine.flags.bytes host.attempts host.runTick.host.machine.flags.bytes := by
  have hcounted := host.flagTrace_counted
  obtain ⟨-, -, hshown⟩ := host.shown_same
  rw [← hshown] at hcounted
  rw [runTick_eq]
  cases hreached : host.shown.result with
  | error error =>
      rw [andThen_of_error hreached]
      exact hcounted
  | ok value =>
      rw [result_andThen hreached, bytes_keepFlags]
      exact hcounted

theorem History.flagTrace {host now : Host Input Display Sound Store}
    {past : List (Host Input Display Sound Store)} (hnow : History host past now) :
    FlagTrace host.machine.flags.bytes (past.flatMap attempts) now.machine.flags.bytes := by
  induction hnow with
  | start => exact .nil _
  | noted _ _ ih => exact ih
  | @silenced past now _ ih =>
      obtain ⟨sound, sounding, hsilence⟩ := now.silence_host
      rw [hsilence]
      exact ih
  | @ticked past now _ ih =>
      rw [List.flatMap_append, List.flatMap_singleton]
      exact ih.append now.flagTrace_runTick

end Ticks

end Host

/-! ## One run -/

namespace Session

variable {Store : Type} [FileStore Store] {path : String} {options : Options} {clock : UInt64}
  {keyboard : Keyboard} {files : Store}

/-- A run that succeeds could be prepared, and its main loop has ended well. -/
theorem run_of_ok {ticks : Nat} (hresult : (run options clock keyboard files).result = .ok ticks) :
    ∃ start finish, prepare options clock keyboard files = .ok start ∧
      start.mainLoop = (.ok ticks, finish) ∧
      run options clock keyboard files = ⟨.ok ticks, some finish⟩ := by
  unfold run at hresult ⊢
  cases hprepare : prepare options clock keyboard files with
  | error error => simp [hprepare] at hresult
  | ok start =>
      rw [hprepare] at hresult
      cases hloop : start.mainLoop with
      | mk result finish =>
          cases result with
          | error error => simp [hloop] at hresult
          | ok count =>
              simp only [hloop, Except.ok.injEq] at hresult
              subst hresult
              refine ⟨start, finish, rfl, hloop, ?_⟩
              simp only [hloop]

/-- A run that keeps its flags at a path and ends well. -/
structure KeepingRun (Store : Type) [FileStore Store] (path : String) where
  options : Options
  clock : UInt64
  keyboard : Keyboard
  /-- The files that the run finds. -/
  files : Store
  /-- The host when the main loop starts. -/
  start : TerminalHost Store
  /-- The host when it is over. -/
  finish : TerminalHost Store
  ticks : Nat
  flags_eq : options.flags = some path
  prepare_eq : prepare options clock keyboard files = .ok start
  run_eq : run options clock keyboard files = ⟨.ok ticks, some finish⟩

/-- A run that is told to keep its flags at the path and succeeds is of this kind. -/
theorem exists_keepingRun {ticks : Nat} (hflags : options.flags = some path)
    (hresult : (run options clock keyboard files).result = .ok ticks) :
    ∃ kept : KeepingRun Store path, kept.options = options ∧ kept.clock = clock ∧
      kept.keyboard = keyboard ∧ kept.files = files ∧ kept.ticks = ticks := by
  obtain ⟨start, finish, hprepare, -, hrun⟩ := run_of_ok hresult
  exact ⟨⟨options, clock, keyboard, files, start, finish, ticks, hflags, hprepare, hrun⟩,
    rfl, rfl, rfl, rfl, rfl⟩

/-- The host of a session starts with the flags that it was given. -/
theorem start_of_prepare {start : TerminalHost Store}
    (hprepare : prepare options clock keyboard files = .ok start) :
    ∃ flags, Session.initialFlags options files = .ok flags ∧
      start.machine.flags = .ofPacked flags ∧ start.files = files ∧
      start.config.flagsPath = options.flags := by
  unfold prepare at hprepare
  split at hprepare
  · contradiction
  · split at hprepare
    · contradiction
    · next flags hflags =>
      simp only at hprepare
      split at hprepare
      · contradiction
      · next machine hload =>
        cases hprepare
        exact ⟨flags, hflags, (Machine.unmarked_of_load hload).2, rfl, rfl⟩

namespace KeepingRun

/-- The flags that the run starts with, in one number. -/
def initialFlags (kept : KeepingRun Store path) : UInt64 :=
  kept.start.machine.flags.packed

/-- The flags that the run ends with. -/
def finalFlags (kept : KeepingRun Store path) : UInt64 :=
  kept.finish.machine.flags.packed

/-- The machines whose next instruction the run carries out, one after the other. -/
def machines (kept : KeepingRun Store path) : List Machine :=
  (kept.start.starts .mainLoop).flatMap Host.attempts

/-- The next run finds the file as this one has left it. -/
def Precedes (kept next : KeepingRun Store path) : Prop :=
  FileStore.read next.files path = FileStore.read kept.finish.files path

theorem mainLoop_eq (kept : KeepingRun Store path) :
    kept.start.mainLoop = (.ok kept.ticks, kept.finish) := by
  have hresult : (run kept.options kept.clock kept.keyboard kept.files).result
      = .ok kept.ticks := by rw [kept.run_eq]
  obtain ⟨start, finish, hprepare, hloop, hrun⟩ := run_of_ok hresult
  have hstart : kept.start = start := Except.ok.inj (kept.prepare_eq.symm.trans hprepare)
  have hfinish : kept.finish = finish :=
    Option.some.inj (congrArg Outcome.host (kept.run_eq.symm.trans hrun))
  rw [hstart, hfinish, hloop]

theorem history (kept : KeepingRun Store path) :
    Host.History kept.start (kept.start.starts .mainLoop) kept.finish := by
  have hstart : Host.History kept.start [] kept.start := .start
  have hall := hstart.mainLoop
  rw [kept.mainLoop_eq] at hall
  exact hall

/-- What the run is given is what it starts with. -/
theorem initialFlags_eq (kept : KeepingRun Store path) :
    Session.initialFlags kept.options kept.files = .ok kept.initialFlags := by
  obtain ⟨flags, hflags, hmachine, -⟩ := start_of_prepare kept.prepare_eq
  rw [hflags, initialFlags, hmachine, FlagRegisters.packed_ofPacked]

theorem load_initialFlags (kept : KeepingRun Store path) :
    FlagFile.load kept.files path = .ok kept.initialFlags := by
  have hgiven := kept.initialFlags_eq
  rw [Session.initialFlags, kept.flags_eq] at hgiven
  exact hgiven

theorem byte_initialFlags (kept : KeepingRun Store path) (position : Fin 8) :
    kept.start.machine.flags.bytes.get position = byteOf kept.initialFlags position :=
  (byteOf_packed kept.start.machine.flags position).symm

/-- Whether or not anything was stored, the run leaves its last flags in the file. -/
theorem load_finalFlags [LawfulFileStore Store] (kept : KeepingRun Store path) :
    FlagFile.load kept.finish.files path = .ok kept.finalFlags := by
  obtain ⟨-, -, -, hfiles, hconfig⟩ := start_of_prepare kept.prepare_eq
  have hpath : kept.start.config.flagsPath = some path := hconfig.trans kept.flags_eq
  have hstart : Host.InFile path kept.start := by
    rw [Host.inFile_iff, hfiles]
    exact kept.load_initialFlags
  refine (kept.history.inFile hpath ?_ (.inl hstart)).number
  -- the run ends well, so that none of its ticks fails
  rcases kept.start.announce.runTicks_cases kept.start.ticksLeft with
    ⟨-, hall⟩ | ⟨_, last, error, -, -, hlast, hticks⟩
  · exact hall
  · have hloop := kept.start.mainLoop_cases
    rw [kept.mainLoop_eq, hticks, hlast] at hloop
    rcases hloop with ⟨_, -, hfailed⟩ | ⟨-, _, hfailed⟩
    · simp at hfailed
    · simp [Except.map] at hfailed

theorem flagTrace (kept : KeepingRun Store path) :
    FlagTrace kept.start.machine.flags.bytes kept.machines kept.finish.machine.flags.bytes :=
  kept.history.flagTrace

/-! ## One run after the other -/

variable [LawfulFileStore Store]

/-- A run starts with the flags that the one before it has ended with. -/
theorem initialFlags_of_precedes {kept next : KeepingRun Store path}
    (hnext : kept.Precedes next) : next.initialFlags = kept.finalFlags := by
  have hload : FlagFile.load next.files path = FlagFile.load kept.finish.files path :=
    FlagFile.load_congr hnext
  rw [next.load_initialFlags, kept.load_finalFlags] at hload
  exact Except.ok.inj hload

theorem bytes_of_precedes {kept next : KeepingRun Store path} (hnext : kept.Precedes next) :
    next.start.machine.flags.bytes = kept.finish.machine.flags.bytes := by
  apply Vector.ext
  intro position hposition
  have hpacked : byteOf next.initialFlags position = byteOf kept.finalFlags position := by
    rw [initialFlags_of_precedes hnext]
  calc next.start.machine.flags.bytes.get ⟨position, hposition⟩
      = byteOf next.initialFlags position :=
        (byteOf_packed next.start.machine.flags ⟨position, hposition⟩).symm
    _ = byteOf kept.finalFlags position := hpacked
    _ = kept.finish.machine.flags.bytes.get ⟨position, hposition⟩ :=
        byteOf_packed kept.finish.machine.flags ⟨position, hposition⟩

/-- Between runs the flags stay what they are, so that all runs together are like one. -/
theorem flagTrace_chain {first : KeepingRun Store path} {rest : List (KeepingRun Store path)}
    (hchain : List.IsChain Precedes (first :: rest)) :
    ∃ last, FlagTrace first.start.machine.flags.bytes ((first :: rest).flatMap machines) last := by
  induction rest generalizing first with
  | nil =>
      rw [List.flatMap_singleton]
      exact ⟨_, first.flagTrace⟩
  | cons next rest ih =>
      rw [List.isChain_cons_cons] at hchain
      obtain ⟨hnext, hrest⟩ := hchain
      obtain ⟨last, hlater⟩ := ih hrest
      rw [bytes_of_precedes hnext] at hlater
      exact ⟨last, first.flagTrace.append hlater⟩

/-- Flags persist over any number of runs that keep them in the same file and end well, if
nobody else touches the file in between.  Each run starts with the flags that were loaded
for it: the first run with those in the file, or with zeros if there is none, and each
later run with those that the one before it has ended with.  So an `FX85` in any of the
runs puts into each register up to VX the byte that was last stored from there by an
`FX75`, in the same run or in an earlier one, or what the first run has found if there was
none.  The other registers are left alone. -/
theorem flags_persist (first : KeepingRun Store path) (rest : List (KeepingRun Store path))
    (hchain : List.IsChain Precedes (first :: rest)) :
    (∀ kept ∈ first :: rest,
        Session.initialFlags kept.options kept.files = .ok kept.initialFlags) ∧
      FlagFile.Holds first.files path first.initialFlags ∧
      List.IsChain (fun kept next => next.initialFlags = kept.finalFlags) (first :: rest) ∧
      ∀ earlier now later, first :: rest = earlier ++ now :: later →
        ∀ past machine future, now.machines = past ++ machine :: future →
          ∀ x : Register, machine.NextIs (· = .restoreFlags x) → x.val ≤ 7 →
            ∃ next, machine.step = .ok next ∧
              (∀ position : Fin 8, position.val ≤ x.val →
                next.register (registerOf position)
                  = (lastStored? position (earlier.flatMap machines ++ past)).getD
                      (byteOf first.initialFlags position)) ∧
              ∀ y : Register, x < y → next.register y = machine.register y := by
  refine ⟨fun kept _ => kept.initialFlags_eq,
    FlagFile.holds_of_load first.load_initialFlags, ?_, ?_⟩
  · exact hchain.imp fun _ _ hnext => initialFlags_of_precedes hnext
  · intro earlier now later hruns past machine future hmachines x hnext hx
    obtain ⟨last, hall⟩ := flagTrace_chain hchain
    have hsplit : (first :: rest).flatMap machines
        = (earlier.flatMap machines ++ past) ++ machine :: (future ++ later.flatMap machines) := by
      rw [hruns, List.flatMap_append, List.flatMap_cons, hmachines]
      simp only [List.append_assoc, List.cons_append]
    rw [hsplit] at hall
    obtain ⟨next, hstep, hrestored, hothers⟩ := Machine.step_restoreFlags hnext hx
    refine ⟨next, hstep, ?_, hothers⟩
    intro position hposition
    calc next.register (registerOf position)
        = machine.flags.bytes.get position := hrestored position hposition
      _ = (lastStored? position (earlier.flatMap machines ++ past)).getD
            (first.start.machine.flags.bytes.get position) := hall.flag_eq position
      _ = (lastStored? position (earlier.flatMap machines ++ past)).getD
            (byteOf first.initialFlags position) := by rw [first.byte_initialFlags]

/-! ## Two runs -/

/-- A run of one tick that keeps its flags. -/
def shortRun (program : String) : Options where
  program := program
  speed := 2
  flags := some "flags.json"
  ticks := some 1

/-- A program that stores `2A` in the first flag, and one that restores it. -/
def programs : FileTable :=
  ⟨[("store.ch8", .ok ⟨#[0x60, 0x2A, 0xF0, 0x75, 0x12, 0x04]⟩),
    ("restore.ch8", .ok ⟨#[0xF0, 0x85, 0x12, 0x02]⟩)]⟩

/-- What the first of the programs leaves behind. -/
def stored : FileTable :=
  filesAfter (run (shortRun "store.ch8") 0 {} programs) programs

/-- What one program stores the other one restores, in a run of its own. -/
theorem flags_persist_programs : ∃ first second : KeepingRun FileTable "flags.json",
    List.IsChain Precedes [first, second] ∧ second.initialFlags = first.finalFlags ∧
      ∃ machine future next, second.machines = machine :: future ∧
        machine.step = .ok next ∧ next.register .v0 = 0x2A := by
  have hstores : (run (shortRun "store.ch8") 0 {} programs).result = .ok 1 := by decide +kernel
  have hrestores : (run (shortRun "restore.ch8") 0 {} stored).result = .ok 1 := by decide +kernel
  obtain ⟨first, hoptions, hclock, hkeyboard, hfiles, -⟩ :=
    exists_keepingRun (rfl : (shortRun "store.ch8").flags = some "flags.json") hstores
  obtain ⟨second, hoptions', hclock', hkeyboard', hfiles', -⟩ :=
    exists_keepingRun (rfl : (shortRun "restore.ch8").flags = some "flags.json") hrestores
  have hrun := first.run_eq
  have hfirst := first.prepare_eq
  have hsecond := second.prepare_eq
  rw [hoptions, hclock, hkeyboard, hfiles] at hrun hfirst
  rw [hoptions', hclock', hkeyboard', hfiles'] at hsecond
  have hchain : List.IsChain Precedes [first, second] := by
    rw [List.isChain_cons_cons]
    refine ⟨?_, .singleton second⟩
    rw [Precedes, hfiles', stored, hrun]
    rfl
  have hlast : (prepare (shortRun "store.ch8") 0 {} programs).map (fun start =>
      lastStored? ⟨0, by decide⟩ ((start.starts .mainLoop).flatMap Host.attempts))
        = .ok (some 0x2A) := by decide +kernel
  have hnext : (prepare (shortRun "restore.ch8") 0 {} stored).map (fun start =>
      ((start.starts .mainLoop).flatMap Host.attempts).head?.any fun machine =>
        decide (machine.NextIs (· = .restoreFlags .v0))) = .ok true := by decide +kernel
  rw [hfirst] at hlast
  rw [hsecond] at hnext
  have hlast : lastStored? ⟨0, by decide⟩ first.machines = some 0x2A := Except.ok.inj hlast
  have hnext : (second.machines.head?.any fun machine =>
    decide (machine.NextIs (· = .restoreFlags .v0))) = true := Except.ok.inj hnext
  obtain ⟨-, -, hpacked, hrestored⟩ := flags_persist first [second] hchain
  refine ⟨first, second, hchain, ?_, ?_⟩
  · rw [List.isChain_cons_cons] at hpacked
    exact hpacked.1
  · cases hmachines : second.machines with
    | nil => simp [hmachines] at hnext
    | cons machine future =>
        rw [hmachines] at hnext
        have hnext : machine.NextIs (· = .restoreFlags .v0) := of_decide_eq_true hnext
        obtain ⟨next, hstep, hregister, -⟩ :=
          hrestored [first] second [] rfl [] machine future hmachines .v0 hnext (by decide)
        refine ⟨machine, future, next, rfl, hstep, ?_⟩
        have hvalue := hregister ⟨0, by decide⟩ (Nat.le_refl 0)
        rw [List.append_nil, List.flatMap_singleton, hlast] at hvalue
        exact hvalue

end KeepingRun

end Session

end Chip8
