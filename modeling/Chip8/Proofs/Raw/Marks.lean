import Chip8.Proofs.Machine.Marking
import Chip8.Proofs.Raw.Drawings
import Chip8.Proofs.Raw.Events

/-!
# The marks are exact

The screen and the flag registers each carry a mark for the host.  Whether an event
touches such a part can be told from the word that is carried out and, for a sprite, from
the bytes at the index.  An event that touches a part sets its mark, and every other event
leaves both the mark and the bytes of the part alone, unless the host takes note of the
part or resets the machine.  From this, what the mark says about a whole run follows by
induction on the calls.
-/

namespace Chip8.Raw

/-- A part of the machine with a mark that says whether it may have changed. -/
inductive MarkedPart where
  | screen
  | flags

namespace MarkedPart

variable {part : MarkedPart} {machine next : Machine} {call : Machine.Call}
  {calls : List Machine.Call}

def isMarked : MarkedPart → Machine → Bool
  | .screen, machine => machine.display.dirty
  | .flags, machine => machine.flags.dirty

def bytes : MarkedPart → Machine → List UInt8
  | .screen, machine => machine.display.bytes.toList
  | .flags, machine => machine.flags.bytes.toList

/-- The call that takes the mark away. -/
def acknowledgement : MarkedPart → Machine.Call
  | .screen => .acknowledgeScreen
  | .flags => .acknowledgeFlags

/-- A word that touches the part when it is carried out: `00E0` or a `DXYN` with a byte
that is not zero among the N at the index, and `FX75` for up to as many registers as there
are flags. -/
def TouchedBy : MarkedPart → Machine → UInt16 → Prop
  | .screen, machine, word =>
      word = 0x00E0 ∨ word.toNat / 0x1000 = 0xD ∧ ∃ place < word.toNat % 0x10,
        machine.memory.read ((addressOf machine.index).offset place) ≠ 0
  | .flags, _, word =>
      word.toNat / 0x1000 = 0xF ∧ word.toNat % 0x100 = 0x75 ∧ word.toNat / 0x100 % 0x10 ≤ 7

/-- A word that touches the part is carried out. -/
def Touches (part : MarkedPart) (event : Event) : Prop :=
  event.CarriesOut ∧ ∃ word, event.before.word = .ok word ∧ part.TouchedBy event.before word

/-- The part and its mark are as they were. -/
structure Kept (part : MarkedPart) (machine next : Machine) : Prop where
  mark : part.isMarked next = part.isMarked machine
  bytes : part.bytes next = part.bytes machine

theorem Kept.trans {later : Machine} (hfirst : part.Kept machine next)
    (hsecond : part.Kept next later) : part.Kept machine later :=
  ⟨hsecond.mark.trans hfirst.mark, hsecond.bytes.trans hfirst.bytes⟩

/-- What an event does to the part, unless it takes the mark away or starts afresh. -/
inductive Changes (part : MarkedPart) (event : Event) : Prop where
  | touched (htouches : part.Touches event) (hmarked : part.isMarked event.after = true)
  | kept (hleaves : ¬ part.Touches event) (hkept : part.Kept event.before event.after)

/-! ## Words and instructions -/

/-- The words that touch the screen are those of the instructions that paint. -/
theorem touchedBy_screen : TouchedBy .screen machine machine.view.word ↔
    ∃ instruction, Instruction.decode? machine.view.word = some instruction ∧
      machine.view.PaintsBy instruction := by
  constructor
  · rintro (hclear | ⟨hlead, place, hplace, hbyte⟩)
    · rw [hclear]
      exact ⟨_, Instruction.decode?_clear, trivial⟩
    · refine ⟨_, Instruction.decode?_draw hlead, _, ?_, hbyte⟩
      exact List.mem_map.mpr ⟨place, List.mem_range.mpr hplace, rfl⟩
  · rintro ⟨instruction, hdecode, hpaints⟩
    have hword := Instruction.encodeNat_of_decode? hdecode
    cases instruction
    case clearScreen => exact .inl (UInt16.toNat_inj.mp hword.symm)
    case draw x y height =>
      obtain ⟨byte, hbyte, hne⟩ := hpaints
      obtain ⟨place, hplace, rfl⟩ := List.mem_map.mp hbyte
      have hheight : machine.view.word.toNat % 0x10 = height.val := by
        rw [← hword]
        exact Instruction.registerWord_last 0xD x y height.isLt
      refine .inr ⟨?_, place, ?_, hne⟩
      · rw [← hword]
        exact Instruction.registerWord_lead 0xD x y height.isLt
      · rw [hheight]
        exact List.mem_range.mp hplace
    all_goals exact hpaints.elim

/-- The words that touch the flags are those of the instructions that store in them. -/
theorem touchedBy_flags : TouchedBy .flags machine machine.view.word ↔
    ∃ instruction, Instruction.decode? machine.view.word = some instruction ∧
      Chip8.Machine.StoresBy instruction := by
  constructor
  · rintro ⟨hlead, hlow, hx⟩
    refine ⟨.saveFlags (lastDigit (machine.view.word.toNat / 0x100)), ?_, hx⟩
    rw [Instruction.decode?_transfer hlead, hlow]
    rfl
  · rintro ⟨instruction, hdecode, hstores⟩
    have hword := Instruction.encodeNat_of_decode? hdecode
    cases instruction
    case saveFlags x =>
      rw [TouchedBy, ← hword]
      refine ⟨Instruction.byteWord_lead 0xF x (by decide),
        Instruction.byteWord_low 0xF x (by decide), ?_⟩
      exact (Instruction.byteWord_x 0xF x (by decide)).trans_le hstores
    all_goals exact hstores.elim

/-! ## One call -/

/-- A step that succeeds touches the part if the word at the counter does and the machine
does not wait for a key. -/
theorem touches_step : part.Touches ⟨machine, .step, .ok (), next⟩ ↔
    machine.keys.isWaiting = false ∧ part.TouchedBy machine machine.view.word := by
  refine Event.performs_iff.trans ?_
  simp [Event.CarriesOut, Machine.CarriesOut]

theorem kept_of_view (hscreen : part = .screen → next.view.screen = machine.view.screen)
    (hflags : part = .flags → next.view.flags = machine.view.flags) :
    part.Kept machine next := by
  cases part with
  | screen =>
      have hdisplay : next.display = machine.display := FrameBuffer.view_injective (hscreen rfl)
      exact ⟨congrArg FrameBuffer.dirty hdisplay,
        congrArg (fun display => display.bytes.toList) hdisplay⟩
  | flags =>
      have hsame : next.flags = machine.flags := hflags rfl
      exact ⟨congrArg FlagRegisters.dirty hsame, congrArg (fun flags => flags.bytes.toList) hsame⟩

theorem changes_step (htyped : machine.view.step = .ok next.view) :
    part.Changes ⟨machine, .step, .ok (), next⟩ := by
  have hwaiting := machine.isWaiting_view
  cases part with
  | screen =>
      have htouches : Touches .screen ⟨machine, .step, .ok (), next⟩ ↔ machine.view.Paints := by
        rw [touches_step, touchedBy_screen, ← hwaiting]
        rfl
      rcases Chip8.Machine.screenMark.of_step htyped with ⟨hpaints, hmarked⟩ | ⟨hnot, hsame⟩
      · exact .touched (htouches.mpr hpaints) hmarked
      · exact .kept (fun htouched => hnot (htouches.mp htouched))
          (kept_of_view (fun _ => hsame) nofun)
  | flags =>
      have htouches : Touches .flags ⟨machine, .step, .ok (), next⟩ ↔
          machine.view.StoresFlags := by
        rw [touches_step, touchedBy_flags, ← hwaiting]
        rfl
      rcases Chip8.Machine.flagsMark.of_step htyped with ⟨hstores, hmarked⟩ | ⟨hnot, hsame⟩
      · exact .touched (htouches.mpr hstores) hmarked
      · exact .kept (fun htouched => hnot (htouches.mp htouched))
          (kept_of_view nofun fun _ => hsame)

/-- Apart from a step, only taking note of the part or a reset changes it. -/
theorem kept_of_answer (hstep : call ≠ .step)
    (hreset : ∀ program seed initialFlags, call ≠ .reset program seed initialFlags)
    (hother : call ≠ part.acknowledgement) (htyped : machine.view.answer call = .ok next.view) :
    part.Kept machine next := by
  cases call with
  | step => exact absurd rfl hstep
  | tick =>
      have hview : machine.view.tick = next.view := Except.ok.inj htyped
      exact kept_of_view (fun _ => (congrArg Chip8.Machine.screen hview).symm)
        fun _ => (congrArg Chip8.Machine.flags hview).symm
  | setKeys mask =>
      have hview : machine.view.setKeys mask = next.view := Except.ok.inj htyped
      obtain ⟨hscreen, hflags⟩ := machine.view.setKeys_same mask
      exact kept_of_view (fun _ => hview ▸ hscreen) fun _ => hview ▸ hflags
  | acknowledgeScreen =>
      have hview : machine.view.acknowledgeScreen = next.view := Except.ok.inj htyped
      refine kept_of_view (fun hscreen => ?_)
        fun _ => (congrArg Chip8.Machine.flags hview).symm
      rw [hscreen] at hother
      exact absurd rfl hother
  | acknowledgeFlags =>
      have hview : machine.view.acknowledgeFlags = next.view := Except.ok.inj htyped
      refine kept_of_view (fun _ => (congrArg Chip8.Machine.screen hview).symm) fun hflags => ?_
      rw [hflags] at hother
      exact absurd rfl hother
  | resetDrawnBytes =>
      have hview : machine.view.resetDrawnBytes = next.view := Except.ok.inj htyped
      exact kept_of_view (fun _ => (congrArg Chip8.Machine.screen hview).symm)
        fun _ => (congrArg Chip8.Machine.flags hview).symm
  | reset program seed initialFlags => exact absurd rfl (hreset program seed initialFlags)

theorem changes_answer (hmachine : machine.WellFormed)
    (hreset : ∀ program seed initialFlags, call ≠ .reset program seed initialFlags)
    (hother : call ≠ part.acknowledgement) :
    ∃ result next, machine.answer call = .ok (result, next) ∧ next.WellFormed ∧
      part.Changes ⟨machine, call, result, next⟩ := by
  rcases Machine.answer_cases hmachine call with
    ⟨next, hanswer, hnext, htyped⟩ | ⟨fault, hanswer, -⟩
  · refine ⟨.ok (), next, hanswer, hnext, ?_⟩
    by_cases hstep : call = .step
    · subst hstep
      exact changes_step htyped
    · refine .kept ?_ (kept_of_answer hstep hreset hother htyped)
      rintro ⟨⟨hcall, -⟩, -⟩
      exact hstep hcall
  · refine ⟨.error fault, machine, hanswer, hmachine, .kept ?_ ⟨rfl, rfl⟩⟩
    rintro ⟨⟨-, -, hresult⟩, -⟩
    cases hresult

/-! ## Several calls -/

/-- Calls set the mark if one of them touches the part, and else leave both alone. -/
theorem changes_run (hmachine : machine.WellFormed) (hcalls : Machine.NoReset calls)
    (hother : part.acknowledgement ∉ calls) :
    ∃ events last, machine.run calls = .ok (events, last) ∧
      (∀ event ∈ events, part.Changes event) ∧
      ((∃ event ∈ events, part.Touches event) ∧ part.isMarked last = true ∨
        (∀ event ∈ events, ¬ part.Touches event) ∧ part.Kept machine last) := by
  induction calls generalizing machine with
  | nil => exact ⟨[], machine, rfl, by simp, .inr ⟨by simp, ⟨rfl, rfl⟩⟩⟩
  | cons call rest ih =>
      rw [List.mem_cons, not_or] at hother
      obtain ⟨result, next, hanswer, hnext, hchanges⟩ :=
        changes_answer hmachine (hcalls call List.mem_cons_self) (Ne.symm hother.1)
      obtain ⟨events, last, hrun, hevents, hlast⟩ :=
        ih hnext hcalls.tail hother.2
      refine ⟨_, last, Machine.run_cons hanswer hrun, ?_, ?_⟩
      · intro event hevent
        rcases List.mem_cons.mp hevent with rfl | hlater
        · exact hchanges
        · exact hevents event hlater
      · simp only [List.mem_cons, exists_eq_or_imp, forall_eq_or_imp]
        -- a mark that is set stays, since whatever does not touch the part keeps it
        rcases hlast with ⟨hlater, hmarked⟩ | ⟨hnone, hkept⟩
        · exact .inl ⟨.inr hlater, hmarked⟩
        · cases hchanges with
          | touched htouches hmarked => exact .inl ⟨.inl htouches, hkept.mark.trans hmarked⟩
          | kept hleaves hfirst => exact .inr ⟨⟨hleaves, hnone⟩, hfirst.trans hkept⟩

/-! ## Since the last note -/

theorem isMarked_of_load {program : List UInt8} {seed initialFlags : UInt64} {fresh : Machine}
    (hload : Machine.load program seed initialFlags = .ok (.ok fresh)) :
    part.isMarked fresh = false := by
  obtain ⟨-, htyped⟩ := Machine.wellFormed_of_load hload
  obtain ⟨hscreen, hflags⟩ := Chip8.Machine.unmarked_of_load htyped
  cases part with
  | screen => exact congrArg Screen.dirty hscreen
  | flags => exact congrArg FlagRegisters.dirty hflags

theorem isMarked_of_acknowledged {events : List Event} {last : Machine}
    (hrun : machine.run (calls ++ [part.acknowledgement]) = .ok (events, last)) :
    part.isMarked last = false := by
  obtain ⟨earlier, middle, result, -, hanswer, -⟩ := Machine.run_concat_cases hrun
  cases part with
  | screen =>
      cases hanswer
      rfl
  | flags =>
      cases hanswer
      rfl

/-- A mark is exact: since the machine was loaded or the host last took note of the part,
the part was touched if and only if it is marked now, and if it is not, its bytes are the
same as then.  Whatever else happens leaves the mark and the bytes alone. -/
theorem marks_are_exact (part : MarkedPart) {program : List UInt8} {seed initialFlags : UInt64}
    {fresh : Machine} (hload : Machine.load program seed initialFlags = .ok (.ok fresh))
    (past recent : List Machine.Call)
    (hpast : past = [] ∨ ∃ earlier, past = earlier ++ [part.acknowledgement])
    (hrecent : Machine.NoReset recent) (hother : part.acknowledgement ∉ recent) :
    ∃ start events last, fresh.afterAll past = .ok start ∧
      start.run recent = .ok (events, last) ∧
      (part.isMarked last = true ↔ ∃ event ∈ events, part.Touches event) ∧
      (part.isMarked last = false → part.bytes last = part.bytes start) ∧
      ∀ event ∈ events, ¬ part.Touches event → part.Kept event.before event.after := by
  obtain ⟨hfresh, -⟩ := Machine.wellFormed_of_load hload
  obtain ⟨before, start, hbefore, hstart⟩ := Machine.exists_run hfresh past
  have hunmarked : part.isMarked start = false := by
    rcases hpast with rfl | ⟨earlier, rfl⟩
    · cases hbefore
      exact isMarked_of_load hload
    · exact isMarked_of_acknowledged hbefore
  obtain ⟨events, last, hrun, hevents, hlast⟩ := changes_run hstart hrecent hother
  refine ⟨start, events, last, Machine.afterAll_of_run hbefore, hrun, ?_, ?_, ?_⟩
  · rcases hlast with ⟨htouched, hmarked⟩ | ⟨hnone, hkept⟩
    · exact iff_of_true hmarked htouched
    · rw [hkept.mark, hunmarked]
      simpa using hnone
  · intro hclean
    rcases hlast with ⟨-, hmarked⟩ | ⟨-, hkept⟩
    · rw [hclean] at hmarked
      contradiction
    · exact hkept.bytes
  · intro event hevent hleaves
    cases hevents event hevent with
    | touched htouches hmarked => exact absurd htouches hleaves
    | kept hnot hkept => exact hkept

/-- The screen is cleared and a flag is stored, the host takes note of one of the two, and
then a row of a glyph is drawn and flags are stored again. -/
theorem marks_are_exact_again : ∃ fresh,
    Machine.load [0x00, 0xE0, 0xF0, 0x75, 0xA0, 0x50, 0xD0, 0x01, 0xF1, 0x75] 0 0
        = .ok (.ok fresh) ∧
      ∀ part : MarkedPart, ∃ start events last,
        fresh.afterAll [.step, .step, part.acknowledgement] = .ok start ∧
        start.run [.step, .tick, .step, .step] = .ok (events, last) ∧
        part.isMarked last = true ∧ ∃ event ∈ events, part.Touches event := by
  have hruns : ∃ fresh,
      Machine.load [0x00, 0xE0, 0xF0, 0x75, 0xA0, 0x50, 0xD0, 0x01, 0xF1, 0x75] 0 0
        = .ok (.ok fresh) ∧
      ∀ part ∈ [screen, flags],
        ∃ start, fresh.afterAll [.step, .step, part.acknowledgement] = .ok start ∧
        ∃ events last, start.run [.step, .tick, .step, .step] = .ok (events, last) ∧
          part.isMarked last = true := by
    decide +kernel
  obtain ⟨fresh, hload, hparts⟩ := hruns
  refine ⟨fresh, hload, ?_⟩
  intro part
  obtain ⟨start, hstart, events, last, hrun, hmarked⟩ := hparts part (by cases part <;> simp)
  obtain ⟨_, _, _, hsameStart, hsame, hexact, -⟩ :=
    marks_are_exact part hload [.step, .step, part.acknowledgement] [.step, .tick, .step, .step]
      (.inr ⟨[.step, .step], rfl⟩) (by simp [Machine.NoReset]) (by cases part <;> decide)
  cases hstart.symm.trans hsameStart
  cases hrun.symm.trans hsame
  exact ⟨start, events, last, hstart, hrun, hmarked, hexact.mp hmarked⟩

end MarkedPart

end Chip8.Raw
