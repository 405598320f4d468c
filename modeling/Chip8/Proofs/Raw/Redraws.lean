import Mathlib.Data.List.Induction
import Chip8.Proofs.Raw.Marks

/-!
# Showing the screen by its mark

Whoever shows the screen elsewhere need not look at the pixels: it is enough to copy them
when the screen is marked, and to take note of that.  The copy is then always up to date,
since whatever changes a pixel leaves the mark.  There is one exception.  A reset blanks
the screen and takes the mark away, so a picture that was copied before stays until the
new program draws.
-/

namespace Chip8.Raw

/-- A machine, and the copy of its screen that is shown elsewhere. -/
structure Viewer where
  machine : Machine
  picture : Vector UInt8 256

namespace Viewer

/-- Something is done to the machine, or it is looked at. -/
inductive Turn where
  | call (call : Machine.Call)
  | poll
  deriving DecidableEq

/-- Nothing is shown yet. -/
def start (machine : Machine) : Viewer where
  machine := machine
  picture := FrameBuffer.blank.bytes

/-- Copy the screen if it is marked, and take note of that. -/
def poll (viewer : Viewer) : Checked Viewer :=
  if viewer.machine.display.dirty then do
    let (_, machine) ← viewer.machine.answer .acknowledgeScreen
    return ⟨machine, viewer.machine.display.bytes⟩
  else
    return viewer

def take (viewer : Viewer) : Turn → Checked Viewer
  | .call call => do
      let (_, machine) ← viewer.machine.answer call
      return { viewer with machine := machine }
  | .poll => viewer.poll

/-- What is shown after some turns. -/
def afterAll (viewer : Viewer) : List Turn → Checked Viewer
  | [] => return viewer
  | turn :: rest => do
      let next ← viewer.take turn
      next.afterAll rest

/-- The picture is the screen. -/
def IsCurrent (viewer : Viewer) : Prop :=
  viewer.picture = viewer.machine.display.bytes

instance (viewer : Viewer) : Decidable viewer.IsCurrent :=
  inferInstanceAs (Decidable (_ = _))

/-- The last of some turns come after a reset that succeeds, and since then the screen has
been blank while the picture is the one from before, which is not. -/
def OutlivesReset (first : Viewer) (turns : List Turn) : Prop :=
  ∃ earlier later program seed initialFlags before fresh,
    turns = earlier ++ .call (.reset program seed initialFlags) :: later ∧
      first.afterAll earlier = .ok before ∧
      Machine.load program seed initialFlags = .ok (.ok fresh) ∧
      before.picture ≠ FrameBuffer.blank.bytes ∧
      ∀ since, since <+: later → ∃ viewer,
        first.afterAll (earlier ++ .call (.reset program seed initialFlags) :: since)
          = .ok viewer ∧ viewer.picture = before.picture ∧ viewer.machine.display = .blank

/-- Whatever is done to the machine but a reset marks the screen if it changes a pixel, and
only taking note of the screen takes the mark away. -/
def MarksChanges (machine : Machine) : Prop :=
  ∀ call result next, Machine.NoReset [call] → machine.answer call = .ok (result, next) →
    (next.display.bytes ≠ machine.display.bytes → next.display.dirty = true) ∧
    (machine.display.dirty = true → call ≠ .acknowledgeScreen → next.display.dirty = true)

variable {first viewer next : Viewer} {turn : Turn} {turns : List Turn}

/-! ## One call -/

theorem display_of_kept {machine next : Machine} (hkept : MarkedPart.Kept .screen machine next) :
    next.display = machine.display := by
  obtain ⟨hmark, hbytes⟩ := hkept
  have hsame : next.display.bytes = machine.display.bytes := Vector.toList_inj.mp hbytes
  exact congrArg₂ FrameBuffer.mk hsame hmark

/-- A call marks the screen, or leaves it and the mark as they were. -/
theorem display_of_answer {machine next : Machine} {call : Machine.Call}
    {result : Except Fault Unit} (hmachine : machine.WellFormed)
    (hreset : ∀ program seed initialFlags, call ≠ .reset program seed initialFlags)
    (hmark : call ≠ .acknowledgeScreen) (hanswer : machine.answer call = .ok (result, next)) :
    next.display.dirty = true ∨ next.display = machine.display := by
  obtain ⟨other, after, hother, -, hchanges⟩ :=
    @MarkedPart.changes_answer .screen machine call hmachine hreset hmark
  rw [hanswer] at hother
  cases hother
  cases hchanges with
  | touched htouches hmarked => exact .inl hmarked
  | kept hleaves hkept => exact .inr (display_of_kept hkept)

theorem marksChanges {machine : Machine} (hmachine : machine.WellFormed) :
    MarksChanges machine := by
  intro call result next hreset hanswer
  by_cases hmark : call = .acknowledgeScreen
  · subst hmark
    cases hanswer
    exact ⟨fun hchanged => absurd rfl hchanged, fun _ hother => absurd rfl hother⟩
  · rcases display_of_answer hmachine (hreset call List.mem_cons_self) hmark hanswer with
      hmarked | hsame
    · exact ⟨fun _ => hmarked, fun _ _ => hmarked⟩
    · rw [hsame]
      exact ⟨fun hchanged => absurd rfl hchanged, fun hmarked _ => hmarked⟩

/-! ## One turn -/

/-- What a turn does to the screen and to the picture of it. -/
inductive Shows (viewer : Viewer) (turn : Turn) (next : Viewer) : Prop where
  | marked (hmarked : next.machine.display.dirty = true)
  | copied (hcurrent : next.IsCurrent)
  | kept (hpicture : next.picture = viewer.picture)
      (hdisplay : next.machine.display = viewer.machine.display)
  | restarted {program : List UInt8} {seed initialFlags : UInt64} {fresh : Machine}
      (hturn : turn = .call (.reset program seed initialFlags))
      (hload : Machine.load program seed initialFlags = .ok (.ok fresh))
      (hpicture : next.picture = viewer.picture) (hdisplay : next.machine.display = .blank)

theorem display_of_load {program : List UInt8} {seed initialFlags : UInt64} {fresh : Machine}
    (hload : Machine.load program seed initialFlags = .ok (.ok fresh)) :
    fresh.display = .blank := by
  obtain ⟨-, htyped⟩ := Machine.wellFormed_of_load hload
  have hscreen : fresh.display.view = .blank := (Chip8.Machine.unmarked_of_load htyped).1
  exact FrameBuffer.view_injective (hscreen.trans FrameBuffer.view_blank.symm)

theorem isCurrent_of_blank (hpicture : viewer.picture = FrameBuffer.blank.bytes)
    (hdisplay : viewer.machine.display = .blank) : viewer.IsCurrent := by
  rw [IsCurrent, hpicture, hdisplay]

/-- A poll leaves the screen without a mark. -/
theorem poll_cases (viewer : Viewer) : ∃ next, viewer.poll = .ok next ∧
    next.machine.display.dirty = false ∧ (viewer.machine.WellFormed → next.machine.WellFormed) ∧
    viewer.Shows .poll next := by
  cases hmarked : viewer.machine.display.dirty with
  | true =>
      refine ⟨⟨{ viewer.machine with display := viewer.machine.display.acknowledge },
        viewer.machine.display.bytes⟩, ?_, rfl, ?_, .copied rfl⟩
      · rw [poll, if_pos hmarked]
        rfl
      · intro hviewer
        exact hviewer.of_same rfl rfl rfl rfl
  | false =>
      refine ⟨viewer, ?_, hmarked, id, .kept rfl rfl⟩
      rw [poll, if_neg (by rw [hmarked]; exact Bool.false_ne_true)]
      rfl

theorem shows_reset (hviewer : viewer.machine.WellFormed) (program : List UInt8)
    (seed initialFlags : UInt64) :
    ∃ next, viewer.take (.call (.reset program seed initialFlags)) = .ok next ∧
      next.machine.WellFormed ∧ viewer.Shows (.call (.reset program seed initialFlags)) next := by
  rcases Machine.load_cases program seed initialFlags with
    ⟨fault, hload, -⟩ | ⟨fresh, hload, hfresh, -⟩
  · refine ⟨viewer, ?_, hviewer, .kept rfl rfl⟩
    rw [take, Machine.answer, hload]
    rfl
  · refine ⟨{ viewer with machine := fresh }, ?_, hfresh,
      .restarted rfl hload rfl (display_of_load hload)⟩
    rw [take, Machine.answer, hload]
    rfl

theorem shows_take (hviewer : viewer.machine.WellFormed)
    (hmark : turn ≠ .call .acknowledgeScreen) :
    ∃ next, viewer.take turn = .ok next ∧ next.machine.WellFormed ∧ viewer.Shows turn next := by
  cases turn with
  | poll =>
      obtain ⟨next, hpoll, -, hnext, hshows⟩ := viewer.poll_cases
      exact ⟨next, hpoll, hnext hviewer, hshows⟩
  | call call =>
      by_cases hreset : ∃ program seed initialFlags, call = .reset program seed initialFlags
      · obtain ⟨program, seed, initialFlags, rfl⟩ := hreset
        exact shows_reset hviewer program seed initialFlags
      · push Not at hreset
        obtain ⟨events, machine, hrun, hmachine⟩ := Machine.exists_run hviewer [call]
        obtain ⟨result, after, later, hanswer, hlater, -⟩ := Machine.run_cons_cases hrun
        cases hlater
        refine ⟨{ viewer with machine := machine }, ?_, hmachine, ?_⟩
        · rw [take, hanswer]
          rfl
        · have hother : call ≠ .acknowledgeScreen := fun hsame => hmark (by rw [hsame])
          rcases display_of_answer hviewer hreset hother hanswer with hmarked | hsame
          · exact .marked hmarked
          · exact .kept rfl hsame

/-! ## Several turns -/

theorem afterAll_concat (first : Viewer) (turns : List Turn) (turn : Turn) :
    first.afterAll (turns ++ [turn]) = first.afterAll turns >>= fun viewer => viewer.take turn := by
  induction turns generalizing first with
  | nil => exact bind_pure (first.take turn)
  | cons earlier rest ih =>
      simp only [List.cons_append, afterAll]
      cases first.take earlier with
      | error crash => rfl
      | ok next => exact ih next

/-- How the picture stands to the screen after some turns. -/
inductive Stands (first : Viewer) (turns : List Turn) (viewer : Viewer) : Prop where
  | marked (hmarked : viewer.machine.display.dirty = true)
  | current (hcurrent : viewer.IsCurrent)
  | outdated (houtlives : first.OutlivesReset turns)

theorem OutlivesReset.now (houtlives : first.OutlivesReset turns)
    (hviewer : first.afterAll turns = .ok viewer) :
    viewer.picture ≠ FrameBuffer.blank.bytes ∧ viewer.machine.display = .blank := by
  obtain ⟨earlier, later, program, seed, initialFlags, before, fresh, rfl, -, -, hpicture,
    hsince⟩ := houtlives
  obtain ⟨now, hnow, hsame, hdisplay⟩ := hsince later List.prefix_rfl
  rw [hviewer] at hnow
  cases hnow
  exact ⟨hsame ▸ hpicture, hdisplay⟩

theorem OutlivesReset.exists_reset (houtlives : first.OutlivesReset turns) :
    ∃ program seed initialFlags, .call (.reset program seed initialFlags) ∈ turns := by
  obtain ⟨earlier, later, program, seed, initialFlags, before, fresh, rfl, -⟩ := houtlives
  exact ⟨program, seed, initialFlags, List.mem_append_right _ List.mem_cons_self⟩

/-- A turn that keeps an outdated picture and the blank screen leaves it outdated. -/
theorem OutlivesReset.concat (houtlives : first.OutlivesReset turns)
    (hviewer : first.afterAll turns = .ok viewer)
    (hnext : first.afterAll (turns ++ [turn]) = .ok next)
    (hpicture : next.picture = viewer.picture)
    (hdisplay : next.machine.display = viewer.machine.display) :
    first.OutlivesReset (turns ++ [turn]) := by
  obtain ⟨-, hblank⟩ := houtlives.now hviewer
  obtain ⟨earlier, later, program, seed, initialFlags, before, fresh, rfl, hbefore, hload,
    hne, hsince⟩ := houtlives
  rw [List.append_assoc, List.cons_append] at hnext ⊢
  refine ⟨earlier, later ++ [turn], program, seed, initialFlags, before, fresh, rfl, hbefore,
    hload, hne, ?_⟩
  intro since hprefix
  rcases List.prefix_concat_iff.mp hprefix with rfl | hearlier
  · obtain ⟨now, hnow, hsame, -⟩ := hsince later List.prefix_rfl
    rw [hviewer] at hnow
    cases hnow
    exact ⟨next, hnext, hpicture.trans hsame, hdisplay.trans hblank⟩
  · exact hsince since hearlier

theorem Stands.concat (hstands : first.Stands turns viewer)
    (hviewer : first.afterAll turns = .ok viewer)
    (hnext : first.afterAll (turns ++ [turn]) = .ok next) (hshows : viewer.Shows turn next) :
    first.Stands (turns ++ [turn]) next := by
  cases hshows with
  | marked hmarked => exact .marked hmarked
  | copied hcurrent => exact .current hcurrent
  | kept hpicture hdisplay =>
      cases hstands with
      | marked hmarked => exact .marked (hdisplay ▸ hmarked)
      | current hcurrent =>
          have hsame : next.IsCurrent := by
            rw [IsCurrent, hpicture, hdisplay]
            exact hcurrent
          exact .current hsame
      | outdated houtlives =>
          exact .outdated (houtlives.concat hviewer hnext hpicture hdisplay)
  | restarted hturn hload hpicture hdisplay =>
      -- the new screen is blank, and so it matters whether the picture is
      by_cases hblank : viewer.picture = FrameBuffer.blank.bytes
      · exact .current (isCurrent_of_blank (hpicture.trans hblank) hdisplay)
      · subst hturn
        refine .outdated ⟨turns, [], _, _, _, viewer, _, rfl, hviewer, hload, hblank, ?_⟩
        intro since hsince
        rw [List.prefix_nil.mp hsince]
        exact ⟨next, hnext, hpicture, hdisplay⟩

/-- From the start on, the picture is current unless the screen is marked or was reset. -/
theorem stands_of_turns {machine : Machine} (hmachine : machine.WellFormed)
    (hdisplay : machine.display = .blank) (hmarks : .call .acknowledgeScreen ∉ turns) :
    ∃ viewer, (start machine).afterAll turns = .ok viewer ∧ viewer.machine.WellFormed ∧
      (start machine).Stands turns viewer := by
  induction turns using List.reverseRecOn with
  | nil => exact ⟨start machine, rfl, hmachine, .current (isCurrent_of_blank rfl hdisplay)⟩
  | append_singleton turns turn ih =>
      rw [List.mem_append, List.mem_singleton, not_or] at hmarks
      obtain ⟨viewer, hviewer, hwell, hstands⟩ := ih hmarks.1
      obtain ⟨next, htake, hnext, hshows⟩ := shows_take hwell (Ne.symm hmarks.2)
      have hturns : (start machine).afterAll (turns ++ [turn]) = .ok next := by
        rw [afterAll_concat, hviewer, ok_bind, htake]
      exact ⟨next, hturns, hnext, hstands.concat hviewer hturns hshows⟩

/-- Whoever copies the screen when it is marked, and only then, has a copy of it after every
look, unless a reset has blanked the screen behind a picture that is not blank and nothing
was drawn since.  Nothing but such a reset changes a pixel without a mark. -/
theorem pictures_follow_marks {program : List UInt8} {seed initialFlags : UInt64}
    {fresh : Machine} (hload : Machine.load program seed initialFlags = .ok (.ok fresh))
    {turns : List Turn} (hmarks : .call .acknowledgeScreen ∉ turns) :
    ∃ viewer, (start fresh).afterAll (turns ++ [.poll]) = .ok viewer ∧
      (viewer.IsCurrent ↔ ¬ (start fresh).OutlivesReset (turns ++ [.poll])) ∧
      MarksChanges viewer.machine := by
  obtain ⟨hfresh, -⟩ := Machine.wellFormed_of_load hload
  obtain ⟨before, hbefore, hwell, hstands⟩ :=
    stands_of_turns hfresh (display_of_load hload) hmarks
  obtain ⟨viewer, hpoll, hclean, hviewer, hshows⟩ := before.poll_cases
  have hturns : (start fresh).afterAll (turns ++ [.poll]) = .ok viewer := by
    rw [afterAll_concat, hbefore, ok_bind]
    exact hpoll
  refine ⟨viewer, hturns, ⟨?_, ?_⟩, marksChanges (hviewer hwell)⟩
  · intro hcurrent houtlives
    obtain ⟨hpicture, hdisplay⟩ := houtlives.now hturns
    exact hpicture (hcurrent.trans (congrArg _ hdisplay))
  · intro hnot
    cases hstands.concat hbefore hturns hshows with
    | marked hmarked =>
        rw [hclean] at hmarked
        contradiction
    | current hcurrent => exact hcurrent
    | outdated houtlives => exact absurd houtlives hnot

/-- A glyph is drawn and shown. -/
theorem pictures_follow_marks_glyph : ∃ (fresh : Machine) (viewer : Viewer),
    Machine.load [0xA0, 0x50, 0xD0, 0x05] 0 0 = .ok (.ok fresh) ∧
      .call .acknowledgeScreen ∉ [Turn.call .step, .call .step] ∧
      (start fresh).afterAll [.call .step, .call .step, .poll] = .ok viewer ∧
      viewer.IsCurrent ∧ viewer.picture ≠ FrameBuffer.blank.bytes := by
  have hturns : ∃ fresh, Machine.load [0xA0, 0x50, 0xD0, 0x05] 0 0 = .ok (.ok fresh) ∧
      ∃ viewer, (start fresh).afterAll [.call .step, .call .step, .poll] = .ok viewer ∧
        viewer.picture[0] = 0x0F := by
    decide +kernel
  obtain ⟨fresh, hload, viewer, hviewer, hfirst⟩ := hturns
  have hmarks : .call .acknowledgeScreen ∉ [Turn.call .step, .call .step] := by decide
  obtain ⟨_, hsame, hcurrent, -⟩ := pictures_follow_marks hload hmarks
  cases hviewer.symm.trans hsame
  refine ⟨fresh, viewer, hload, hmarks, hviewer, hcurrent.mpr ?_, ?_⟩
  · intro houtlives
    obtain ⟨program, seed, initialFlags, hreset⟩ := houtlives.exists_reset
    simp at hreset
  · intro hblank
    rw [hblank] at hfirst
    exact absurd hfirst (by decide)

/-- The glyph is still shown after a reset, although the screen is blank again. -/
theorem picture_outlives_reset : ∃ (fresh : Machine) (viewer : Viewer),
    Machine.load [0xA0, 0x50, 0xD0, 0x05] 0 0 = .ok (.ok fresh) ∧
      (start fresh).afterAll [.call .step, .call .step, .poll, .call (.reset [0x12, 0x00] 0 0),
        .poll] = .ok viewer ∧
      ¬ viewer.IsCurrent := by
  have hturns : ∃ fresh, Machine.load [0xA0, 0x50, 0xD0, 0x05] 0 0 = .ok (.ok fresh) ∧
      ∃ viewer, (start fresh).afterAll [.call .step, .call .step, .poll,
        .call (.reset [0x12, 0x00] 0 0), .poll] = .ok viewer ∧
        viewer.picture[0] ≠ viewer.machine.display.bytes[0] := by
    decide +kernel
  obtain ⟨fresh, hload, viewer, hviewer, hfirst⟩ := hturns
  refine ⟨fresh, viewer, hload, hviewer, ?_⟩
  intro hcurrent
  exact hfirst (congrArg (fun picture => picture[0]) hcurrent)

end Viewer

end Chip8.Raw
