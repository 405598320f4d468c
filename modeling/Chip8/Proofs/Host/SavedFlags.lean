import Chip8.Device.Script
import Chip8.Device.Speaker
import Chip8.FileTable
import Chip8.Proofs.Host.Pending
import Chip8.Proofs.Machine.FlagTrace

/-!
# The flag file follows the machine

If flags are kept in a file, those in the file are those of the machine after every
tick that succeeds, once there was anything to keep.  What was stored by ticks that
fail is kept by the next one that does not.
-/

namespace Chip8

namespace Host

open FlagRegisters (byteOf byteOf_packed)

variable {Input Display Sound Store : Type}

/-! ## One tick -/

section Kept

variable [FileStore Store] {path : String}

/-- The flags in the file are those of the machine. -/
structure InFile (path : String) (host : Host Input Display Sound Store) : Prop where
  number : FlagFile.load host.files path = .ok host.machine.flags.packed
  /-- Each flag has its own byte of the number. -/
  bytes (position : Fin 8) :
    byteOf host.machine.flags.packed position = host.machine.flags.bytes.get position

/-- There is nothing to show about the bytes: the number has the flags in it whether or
not it is in a file. -/
theorem inFile_iff {host : Host Input Display Sound Store} :
    InFile path host ↔ FlagFile.load host.files path = .ok host.machine.flags.packed :=
  ⟨InFile.number, fun hload => ⟨hload, byteOf_packed host.machine.flags⟩⟩

instance (host : Host Input Display Sound Store) : Decidable (InFile path host) :=
  decidable_of_iff _ inFile_iff.symm

theorem InFile.of_same {before host : Host Input Display Sound Store}
    (hbefore : InFile path before) (hfiles : host.files = before.files)
    (hflags : host.machine.flags = before.machine.flags) : InFile path host := by
  rw [inFile_iff, hfiles, hflags]
  exact hbefore.number

/-- Files that are observed are read like those that are not. -/
theorem inFile_plain {host : ObservedHost Input Display Sound Store} :
    InFile path host.plain ↔ InFile path host := by
  rw [inFile_iff, inFile_iff]
  exact Iff.rfl

variable [LawfulFileStore Store]

/-- What the machine has stored is in the file once the flags are kept. -/
theorem inFile_keepFlags {host : Host Input Display Sound Store}
    (hpath : host.config.flagsPath = some path) (hdirty : host.machine.flags.dirty = true)
    (hresult : host.keepFlags.result = .ok ()) : InFile path host.keepFlags.host := by
  rcases host.keepFlags_cases with ⟨hclean, -⟩ | ⟨-, ⟨hnone, -⟩ |
    ⟨other, files, journal, hother, ⟨error, -, hkeep⟩ | ⟨hsave, hkeep⟩⟩⟩
  · simp [hdirty] at hclean
  · simp [hpath] at hnone
  · rw [hkeep] at hresult
    contradiction
  · obtain rfl : path = other := Option.some.inj (hpath.symm.trans hother)
    rw [hkeep]
    exact inFile_iff.mpr (FlagFile.load_of_save hsave)

end Kept

section Ticks

variable [InputDevice Input] [DisplayDevice Display] [SoundDevice Sound]

/-- Up to the screen, the files are left alone, and the flags are those after the
instructions. -/
theorem shown_same (host : Host Input Display Sound Store) :
    host.shown.host.files = host.files ∧ host.shown.host.config = host.config ∧
      host.shown.host.machine.flags = host.counted.host.machine.flags := by
  have hcounted := host.sameDevices_counted
  obtain ⟨sound, sounding, htoned⟩ := host.toned_host
  obtain ⟨display, screen, hshown⟩ := host.shown_host
  rw [hshown, htoned]
  exact ⟨hcounted.files, hcounted.config, rfl⟩

end Ticks

section Saved

variable [FileStore Store] [LawfulFileStore Store] {path : String}
  {host : ObservedHost Input Display Sound Store}

/-- Flags are kept in a file, and unless they are marked, this holds them or was never
written. -/
structure Saved (path : String) (host : ObservedHost Input Display Sound Store) : Prop where
  place : host.config.flagsPath = some path
  current : host.machine.flags.dirty = false → host.files.requests = [] ∨ InFile path host

omit [LawfulFileStore Store] in
theorem Saved.of_marked (hpath : host.config.flagsPath = some path)
    (hdirty : host.machine.flags.dirty = true) : Saved path host :=
  ⟨hpath, fun hclean => by simp [hclean] at hdirty⟩

omit [LawfulFileStore Store] in
theorem Saved.of_same {before : ObservedHost Input Display Sound Store}
    (hbefore : Saved path before) (hconfig : host.config = before.config)
    (hfiles : host.files = before.files)
    (hflags : host.machine.flags = before.machine.flags) : Saved path host := by
  refine ⟨hconfig ▸ hbefore.place, ?_⟩
  rw [hfiles, hflags]
  exact fun hclean => (hbefore.current hclean).imp_right fun hfile => hfile.of_same hfiles hflags

omit [LawfulFileStore Store] in
/-- Nothing was written yet. -/
theorem saved_observed {host : Host Input Display Sound Store}
    (hpath : host.config.flagsPath = some path) : Saved path host.observed :=
  ⟨hpath, fun _ => .inl rfl⟩

theorem saved_keepFlags (hhost : Saved path host) : Saved path host.keepFlags.host := by
  rcases host.keepFlags_cases with ⟨-, hkeep⟩ | ⟨hdirty, ⟨hnone, -⟩ |
    ⟨other, files, journal, -, ⟨error, -, hkeep⟩ | ⟨-, hkeep⟩⟩⟩
  · rw [hkeep]
    exact hhost
  · simp [hhost.place] at hnone
  · rw [hkeep]
    exact .of_marked hhost.place hdirty
  · have hresult : host.keepFlags.result = .ok () := by rw [hkeep]; rfl
    have hfile := inFile_keepFlags hhost.place hdirty hresult
    refine ⟨?_, fun _ => .inr hfile⟩
    rw [hkeep]
    exact hhost.place

variable [InputDevice Input] [DisplayDevice Display] [SoundDevice Sound]

theorem lasting_saved (path : String) :
    Lasting (Saved path : ObservedHost Input Display Sound Store → Prop) := by
  refine lasting_of_mark Machine.flagsMark ?_ ?_ ?_ ?_
  · intro before after hbefore hconfig _ hfiles hflags
    exact hbefore.of_same hconfig hfiles hflags
  · intro before next hbefore hset
    exact .of_marked hbefore.place hset
  · intro host hhost
    obtain ⟨display, screen, hshow⟩ := host.showScreen_host
    rw [hshow]
    exact hhost.of_same rfl rfl rfl
  · intro host hhost
    exact saved_keepFlags hhost

omit [LawfulFileStore Store] in
/-- A tick writes the flags to the file if it gets that far and the flags are marked. -/
theorem offered_flags (now : ObservedHost Input Display Sound Store)
    (hpath : now.config.flagsPath = some path) :
    Offered (now.shown.result = .ok ())
      (path, (FlagFile.render now.counted.host.machine.flags.packed).toUTF8) now.files
      now.runTick.host.files now.counted.host.machine.flags.dirty
      now.runTick.host.machine.flags.dirty (now.runTick.result = .ok ()) := by
  obtain ⟨hfiles, hconfig, hflags⟩ := now.shown_same
  rw [← hconfig] at hpath
  rw [← hfiles, ← hflags, runTick_eq]
  cases hreached : now.shown.result with
  | error error =>
      rw [andThen_of_error hreached, hreached]
      exact .idle (.inr ⟨by simp, by simp⟩) rfl rfl
  | ok value =>
      rw [result_andThen hreached]
      rcases now.shown.host.keepFlags_cases with ⟨hclean, hkeep⟩ | ⟨hdirty, ⟨hnone, -⟩ |
        ⟨other, files, journal, hother, ⟨error, hsave, hkeep⟩ | ⟨hsave, hkeep⟩⟩⟩
      · rw [hkeep]
        exact .idle (.inl hclean) rfl rfl
      · simp [hpath] at hnone
      · obtain rfl : path = other := Option.some.inj (hpath.symm.trans hother)
        rw [hkeep]
        obtain ⟨io, hwrite, -⟩ | ⟨-, hresult⟩ := FlagFile.save_cases hsave
        · exact .refused rfl hdirty (Observed.ask_cases hwrite).2 hdirty (by simp [failed])
        · contradiction
      · obtain rfl : path = other := Option.some.inj (hpath.symm.trans hother)
        rw [hkeep]
        obtain ⟨io, -, hresult⟩ | ⟨hwrite, -⟩ := FlagFile.save_cases hsave
        · contradiction
        · exact .accepted rfl hdirty (Observed.ask_cases hwrite).2 rfl

omit [LawfulFileStore Store] in
/-- A tick that fails keeps the flags to itself. -/
theorem flags_of_error (now : ObservedHost Input Display Sound Store) {error : HostError}
    (hresult : now.runTick.result = .error error) :
    now.runTick.host.machine.flags = now.counted.host.machine.flags := by
  obtain ⟨-, -, hflags⟩ := now.shown_same
  rw [runTick_eq] at hresult ⊢
  rw [← hflags]
  cases hreached : now.shown.result with
  | error other => rw [andThen_of_error hreached]
  | ok value =>
      rw [result_andThen hreached] at hresult ⊢
      rcases now.shown.host.keepFlags_cases with ⟨-, hkeep⟩ | ⟨-, ⟨-, hkeep⟩ |
        ⟨_, files, journal, -, ⟨_, -, hkeep⟩ | ⟨-, hkeep⟩⟩⟩
      · rw [hkeep] at hresult
        contradiction
      · rw [hkeep] at hresult
        contradiction
      · rw [hkeep]
        rfl
      · rw [hkeep] at hresult
        contradiction

/-- The flags are handed over to the files. -/
theorem handsOver_flags {program : List UInt8} {seed flags : UInt64}
    {host : Host Input Display Sound Store}
    (hload : Machine.load program seed flags = .ok host.machine)
    (hpath : host.config.flagsPath = some path) :
    HandsOver host.observed Machine.flagsMark Host.files where
  start := by
    show host.machine.flags.dirty = false
    rw [(Machine.unmarked_of_load hload).2]
    rfl
  noted _ _ := rfl
  toned _ _ _ := rfl
  offered {_ now} hnow :=
    ⟨_, _, now.offered_flags (hnow.lasting (lasting_saved path) (saved_observed hpath)).place⟩

/-! ## Flags -/

/-- After ticks that have started at the hosts of a list, and once the instructions of
one more are over, there are flags that were stored since the file was written. -/
def FlagsPending (past : List (ObservedHost Input Display Sound Store))
    (now : ObservedHost Input Display Sound Store) : Prop :=
  ∃ earlier ∈ past ++ [now], earlier.StoresFlags ∧ earlier.files.granted = now.files.granted

/-- What a tick does about the flags, after ticks that have started at the hosts of a
list. -/
structure KeepsFlags (path : String) (past : List (ObservedHost Input Display Sound Store))
    (now : ObservedHost Input Display Sound Store) : Prop where
  /-- After a tick that succeeds, the file holds the flags, unless there was nothing to
  write yet. -/
  saved : now.runTick.result = .ok () →
    ((∀ tick ∈ past ++ [now], ¬ tick.StoresFlags) ∧ now.runTick.host.files.requests = []) ∨
      InFile path now.runTick.host.plain
  /-- A tick that fails leaves the flags marked that are still to be written. -/
  postponed : now.runTick.result ≠ .ok () → FlagsPending past now →
    now.runTick.host.machine.flags.dirty = true
  /-- Nothing is written, or the flags once.  This takes flags that are pending. -/
  needed : now.runTick.host.files = now.files ∨
    (now.shown.result = .ok () ∧ FlagsPending past now ∧
      ∃ accepted, now.runTick.host.files.requests = now.files.requests
        ++ [((path, (FlagFile.render now.shown.host.machine.flags.packed).toUTF8), accepted)])

theorem keepsFlags {program : List UInt8} {seed flags : UInt64}
    {host : Host Input Display Sound Store}
    (hload : Machine.load program seed flags = .ok host.machine)
    (hpath : host.config.flagsPath = some path)
    {past : List (ObservedHost Input Display Sound Store)}
    {now : ObservedHost Input Display Sound Store} (hnow : History host.observed past now) :
    KeepsFlags path past now := by
  have hsaved : Saved path now := hnow.lasting (lasting_saved path) (saved_observed hpath)
  have hands := handsOver_flags hload hpath
  have hpending := hands.pending_counted_iff hnow
  have hoffered := now.offered_flags hsaved.place
  refine ⟨?_, ?_, ?_⟩
  · intro hresult
    have hclean := hoffered.left_of_succeeded hresult
    rcases ((lasting_saved path).runTick hsaved).current hclean with hnone | hfile
    · refine .inl ⟨?_, hnone⟩
      intro tick htick hstores
      obtain ⟨hgrows, hmarked⟩ := hands.pending_iff hnow.ticked
      have hgranted : now.runTick.host.files.granted = [] := by simp [Observed.granted, hnone]
      -- nothing was ever granted, so whatever was stored would still be marked
      have hsame := hgrows tick htick
      rw [hgranted, List.prefix_nil] at hsame
      have hset := hmarked.mpr ⟨tick, htick, hstores, hsame.trans hgranted.symm⟩
      rw [Machine.flagsMark] at hset
      simp [hclean] at hset
    · exact .inr (inFile_plain.mpr hfile)
  · intro hresult hstored
    cases herror : now.runTick.result with
    | ok value => exact absurd herror hresult
    | error error =>
        rw [now.flags_of_error herror]
        exact hpending.mpr hstored
  · obtain ⟨-, -, hflags⟩ := now.shown_same
    rw [hflags]
    rcases hoffered.requests_cases with ⟨hsame, -⟩ | ⟨⟨hreached, hmarked⟩, hasked⟩
    · exact .inl hsame
    · exact .inr ⟨hreached, hpending.mp hmarked, hasked⟩

/-- The flag file follows the machine, whatever a program does, and whichever devices,
writes and instructions fail, if nobody else writes the file: after every tick that
succeeds it holds the flags of the machine, unless there was never anything to write.
The files are observed for this, which makes no difference to the run. -/
theorem flag_file_follows {program : List UInt8} {seed flags : UInt64}
    (host : Host Input Display Sound Store)
    (hload : Machine.load program seed flags = .ok host.machine)
    (hpath : host.config.flagsPath = some path) (calls : List Call) :
    (host.observed.allStarts calls).map plain = host.allStarts calls ∧
      (host.observed.afterAll calls).plain = host.afterAll calls ∧
      ∀ past now future, host.observed.allStarts calls = past ++ now :: future →
        KeepsFlags path past now := by
  refine ⟨host.observed.plain_allStarts calls, host.observed.plain_afterAll calls, ?_⟩
  intro past now future hsplit
  exact keepsFlags hload hpath (.of_allStarts hsplit)

end Saved

/-- A flag is stored, and the file keeps it. -/
theorem flag_file_follows_store : ∃ host : Host MaskPlayback FrameRecorder Mute FileTable,
    Machine.load [0x60, 0x2A, 0xF0, 0x75, 0x12, 0x04] 1 2 = .ok host.machine ∧
      host.config.flagsPath = some "flags.json" ∧
      KeepsFlags "flags.json" [host.observed] host.observed.runTick.host := by
  obtain ⟨machine, hload⟩ : ∃ machine,
      Machine.load [0x60, 0x2A, 0xF0, 0x75, 0x12, 0x04] 1 2 = .ok machine := ⟨_, rfl⟩
  let host : Host MaskPlayback FrameRecorder Mute FileTable := {
    machine := machine
    input := ⟨[]⟩
    display := {}
    sound := {}
    files := {}
    config := { flagsPath := some "flags.json" } }
  refine ⟨host, hload, rfl, ?_⟩
  exact (flag_file_follows host hload rfl [.runTick, .runTick]).2.2 [host.observed] _ [] rfl

end Host

end Chip8
