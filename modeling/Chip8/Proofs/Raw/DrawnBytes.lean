import Mathlib.Data.List.DropRight
import Chip8.Proofs.Raw.Events

/-!
# How many bytes were drawn

Each `DXYN` that is carried out adds its N to a counter, which stays at the largest word of
32 bits once it is there.  Nothing else moves the counter, except that it starts again from
zero when it is reset or another program is loaded.  Adding up with a limit at each step is
the same as adding up all N and applying the limit once, so the counter shows what was drawn
since it last started, no matter how long ago that was.
-/

namespace Chip8

namespace Machine

variable {machine next : Machine}

theorem drawnBytes_of_load {program : List UInt8} {seed initialFlags : UInt64}
    (hload : load program seed initialFlags = .ok machine) : machine.drawnBytes = 0 := by
  obtain ⟨memory, rfl⟩ := eq_of_load hload
  rfl

/-- Only `DXYN` moves the counter. -/
theorem drawnBytes_of_execute {word : UInt16} {instruction : Instruction}
    (hdecode : Instruction.decode? word = some instruction)
    (hexecute : machine.execute instruction = .ok next) :
    next.drawnBytes = if word.toNat / 0x1000 = 0xD then
      min maxDrawnBytes (machine.drawnBytes + word.toNat % 0x10) else machine.drawnBytes := by
  split
  case isTrue hlead =>
    rw [Instruction.decode?_draw hlead] at hdecode
    cases hdecode
    cases hexecute
    rfl
  case isFalse hlead =>
    cases instruction
    case draw x y height =>
      -- the word of a sprite would begin with D
      have hword := Instruction.encodeNat_of_decode? hdecode
      rw [← hword] at hlead
      exact absurd (Instruction.registerWord_lead 0xD x y height.isLt) hlead
    case returnToCaller =>
      obtain ⟨popped, -, rfl⟩ := execute_returnToCaller_ok.mp hexecute
      rfl
    case call =>
      obtain ⟨pushed, -, rfl⟩ := execute_call_ok.mp hexecute
      rfl
    case saveFlags =>
      obtain ⟨saved, -, rfl⟩ := execute_saveFlags_ok.mp hexecute
      rfl
    case restoreFlags =>
      obtain ⟨registers, rfl⟩ := registers_of_restoreFlags hexecute
      rfl
    case loadRegisters =>
      obtain ⟨registers, rfl⟩ := registers_of_loadRegisters hexecute
      rfl
    all_goals
      cases hexecute
      rfl

theorem drawnBytes_of_step (hstep : machine.step = .ok next) :
    next.drawnBytes = if machine.isWaiting = false ∧ machine.word.toNat / 0x1000 = 0xD then
      min maxDrawnBytes (machine.drawnBytes + machine.word.toNat % 0x10)
      else machine.drawnBytes := by
  rcases step_cases hstep with ⟨hwaiting, rfl⟩ | ⟨hwaiting, instruction, hdecode, hexecute⟩
  · exact (if_neg (by simp [hwaiting])).symm
  · simpa [hwaiting] using drawnBytes_of_execute hdecode hexecute

end Machine

namespace Raw

/-- `DXYN`. -/
def DrawsSprite (word : UInt16) : Prop :=
  word.toNat / 0x1000 = 0xD

instance : DecidablePred DrawsSprite := fun _ => inferInstanceAs (Decidable (_ = _))

namespace Event

/-- How many bytes are drawn: N if the event carries out `DXYN`, and otherwise none. -/
def drawn (event : Event) : Nat :=
  if event.Performs DrawsSprite then event.before.view.word.toNat % 0x10 else 0

/-- The counter is reset, or another program is loaded. -/
def startsCount (event : Event) : Bool :=
  match event.call, event.result with
  | .resetDrawnBytes, _ => true
  | .reset _ _ _, .ok _ => true
  | _, _ => false

/-- What an event does to the counter. -/
structure Counts (event : Event) : Prop where
  started : event.startsCount = true → event.after.drawnBytes = 0
  added : event.startsCount = false → event.after.drawnBytes.toNat
    = min (UInt32.size - 1) (event.before.drawnBytes.toNat + event.drawn)

theorem toNat_le_largest (count : UInt32) : count.toNat ≤ UInt32.size - 1 :=
  Nat.le_sub_one_of_lt count.toNat_lt

/-- The counter never goes down by adding to it. -/
theorem Counts.le {event : Event} (hcounts : event.Counts)
    (hgoing : event.startsCount = false) : event.before.drawnBytes ≤ event.after.drawnBytes := by
  rw [UInt32.le_iff_toNat_le, hcounts.added hgoing]
  exact le_min (toNat_le_largest _) (Nat.le_add_right _ _)

end Event

/-- How many bytes some events draw together. -/
def drawnTotal : List Event → Nat
  | [] => 0
  | event :: rest => event.drawn + drawnTotal rest

theorem drawnTotal_concat (events : List Event) (event : Event) :
    drawnTotal (events ++ [event]) = drawnTotal events + event.drawn := by
  induction events with
  | nil => exact Nat.add_comm _ _
  | cons first rest ih => rw [List.cons_append, drawnTotal, drawnTotal, ih, Nat.add_assoc]

/-- The events after the last that starts the count, or all if there is none. -/
def sinceStart (events : List Event) : List Event :=
  events.rtakeWhile fun event => !event.startsCount

theorem sinceStart_concat (events : List Event) (event : Event) :
    sinceStart (events ++ [event])
      = if event.startsCount then [] else sinceStart events ++ [event] := by
  rw [sinceStart, List.rtakeWhile_concat]
  cases event.startsCount with
  | true => rfl
  | false => rfl

namespace Machine

variable {machine next last : Machine} {call : Machine.Call} {calls : List Machine.Call}
  {result : Except Fault Unit} {events : List Event}

/-! ## One call -/

/-- `DXYN` can always be carried out. -/
theorem step_draw (hfree : machine.keys.isWaiting = false)
    (hdraws : DrawsSprite machine.view.word) : ∃ next, machine.step = .ok (.ok (), next) := by
  obtain ⟨display, collision, hexecute, -⟩ :=
    machine.drawSprite_eq (lastDigit (machine.view.word.toNat / 0x100))
      (lastDigit (machine.view.word.toNat / 0x10)) (lastDigit machine.view.word.toNat)
  exact ⟨_, step_of_execute hfree (Instruction.decode?_draw hdraws) hexecute⟩

/-- A call that neither starts the count nor draws leaves the counter alone. -/
theorem counts_of_kept (hgoing : Event.startsCount ⟨machine, call, result, next⟩ = false)
    (hidle : ¬ Event.Performs DrawsSprite ⟨machine, call, result, next⟩)
    (hkept : next.drawnBytes = machine.drawnBytes) :
    Event.Counts ⟨machine, call, result, next⟩ where
  started := by simp [hgoing]
  added := by
    intro _
    rw [Event.drawn, if_neg hidle, Nat.add_zero,
      Nat.min_eq_right (Event.toNat_le_largest machine.drawnBytes)]
    exact congrArg UInt32.toNat hkept

theorem drawnBytes_of_load {program : List UInt8} {seed initialFlags : UInt64}
    (hload : load program seed initialFlags = .ok (.ok machine)) : machine.drawnBytes = 0 := by
  obtain ⟨-, htyped⟩ := wellFormed_of_load hload
  exact UInt32.toNat_inj.mp (Chip8.Machine.drawnBytes_of_load htyped)

/-- A call that starts the count leaves nothing in the counter. -/
theorem counts_of_started (hstarts : Event.startsCount ⟨machine, call, result, next⟩ = true)
    (hzero : next.drawnBytes = 0) : Event.Counts ⟨machine, call, result, next⟩ where
  started := fun _ => hzero
  added := by simp [hstarts]

theorem counts_of_step (hmachine : machine.WellFormed)
    (hstep : machine.step = .ok (.ok (), next)) :
    Event.Counts ⟨machine, .step, .ok (), next⟩ := by
  have hcount : next.drawnBytes.toNat = _ :=
    Chip8.Machine.drawnBytes_of_step (view_of_step hmachine hstep)
  rw [isWaiting_view] at hcount
  by_cases hdraws : machine.keys.isWaiting = false ∧ machine.view.word.toNat / 0x1000 = 0xD
  · have hperforms : Event.Performs DrawsSprite ⟨machine, .step, .ok (), next⟩ :=
      performs_of_step hdraws.1 hdraws.2 hstep hstep
    have hgoing : Event.startsCount ⟨machine, .step, .ok (), next⟩ = false := rfl
    rw [if_pos hdraws] at hcount
    refine ⟨by simp [hgoing], fun _ => ?_⟩
    rw [Event.drawn, if_pos hperforms]
    exact hcount
  · rw [if_neg hdraws] at hcount
    refine counts_of_kept rfl ?_ (UInt32.toNat_inj.mp hcount)
    intro hperforms
    obtain ⟨⟨-, hfree, -⟩, hword⟩ := Event.performs_iff.mp hperforms
    exact hdraws ⟨hfree, hword⟩

theorem counts_of_answer (hmachine : machine.WellFormed)
    (hanswer : machine.answer call = .ok (result, next)) :
    Event.Counts ⟨machine, call, result, next⟩ := by
  have hother (hcall : call ≠ .step) :
      ¬ Event.Performs DrawsSprite ⟨machine, call, result, next⟩ :=
    fun hperforms => hcall hperforms.1.1
  cases call with
  | step =>
      cases result with
      | ok done => exact counts_of_step hmachine hanswer
      | error fault =>
          refine counts_of_kept rfl ?_ (congrArg drawnBytes (eq_of_step_error hmachine hanswer))
          rintro ⟨⟨-, -, hresult⟩, -⟩
          cases hresult
  | tick | acknowledgeScreen | acknowledgeFlags =>
      cases hanswer
      exact counts_of_kept rfl (hother (by simp)) rfl
  | setKeys mask =>
      obtain ⟨rfl, registers, keys, rfl⟩ := kept_of_setKeys hanswer
      exact counts_of_kept rfl (hother (by simp)) rfl
  | resetDrawnBytes =>
      cases hanswer
      exact counts_of_started rfl rfl
  | reset program seed initialFlags =>
      rcases answer_reset_cases hanswer with ⟨fault, rfl, rfl⟩ | ⟨rfl, hload⟩
      · exact counts_of_kept rfl (hother (by simp)) rfl
      · exact counts_of_started rfl (drawnBytes_of_load hload)

/-- Five bytes more than the largest word but two. -/
example : ∃ fresh, load [0xD0, 0x05] 0 0 = .ok (.ok fresh) ∧
    ∃ result next, step { fresh with drawnBytes := 0xFFFFFFFD } = .ok (result, next) ∧
      next.drawnBytes = 0xFFFFFFFF := by
  decide +kernel

/-! ## Several calls -/

/-- Adding up with the limit at each step is adding up and then applying the limit. -/
theorem drawnBytes_of_run (hmachine : machine.WellFormed) (hzero : machine.drawnBytes = 0)
    (hrun : machine.run calls = .ok (events, last)) :
    last.drawnBytes.toNat = min (UInt32.size - 1) (drawnTotal (sinceStart events)) := by
  induction calls using List.reverseRecOn generalizing events last with
  | nil =>
      cases hrun
      rw [hzero]
      rfl
  | append_singleton calls call ih =>
      obtain ⟨earlier, middle, result, hearlier, hanswer, rfl⟩ := run_concat_cases hrun
      have hcounts := counts_of_answer (wellFormed_of_run hmachine hearlier) hanswer
      rw [sinceStart_concat]
      cases hstarts : Event.startsCount ⟨middle, call, result, last⟩ with
      | true =>
          rw [hcounts.started hstarts]
          rfl
      | false =>
          -- a count that has reached the limit stays there, whatever is added
          calc last.drawnBytes.toNat
              = min (UInt32.size - 1) (middle.drawnBytes.toNat
                  + Event.drawn ⟨middle, call, result, last⟩) := hcounts.added hstarts
            _ = min (UInt32.size - 1) (min (UInt32.size - 1) (drawnTotal (sinceStart earlier))
                  + Event.drawn ⟨middle, call, result, last⟩) := by rw [ih hearlier]
            _ = min (UInt32.size - 1) (drawnTotal (sinceStart earlier)
                  + Event.drawn ⟨middle, call, result, last⟩) := by omega
            _ = min (UInt32.size - 1)
                  (drawnTotal (sinceStart earlier ++ [⟨middle, call, result, last⟩])) := by
                rw [drawnTotal_concat]

/-- Whatever is done to a machine, its counter shows how many bytes the instructions `DXYN`
have drawn that were carried out since the machine was loaded, since it was last loaded anew
and since the counter was last reset, up to the largest word of 32 bits.  A step at `DXYN`
draws N bytes unless it waits for a key, and the counter does not go down unless it starts
again. -/
theorem drawn_bytes_are_counted {program : List UInt8} {seed initialFlags : UInt64}
    {fresh : Machine} (hload : load program seed initialFlags = .ok (.ok fresh))
    (calls : List Machine.Call) :
    ∃ events last, fresh.run calls = .ok (events, last) ∧
      last.drawnBytes.toNat = min (UInt32.size - 1) (drawnTotal (sinceStart events)) ∧
      ∀ event ∈ events,
        (event.call = .step → event.before.keys.isWaiting = false →
          ∀ word, event.before.word = .ok word → DrawsSprite word →
            event.drawn = word.toNat % 0x10) ∧
        (event.startsCount = false → event.before.drawnBytes ≤ event.after.drawnBytes) := by
  obtain ⟨hfresh, -⟩ := wellFormed_of_load hload
  obtain ⟨events, last, hrun, -⟩ := exists_run hfresh calls
  refine ⟨events, last, hrun, drawnBytes_of_run hfresh (drawnBytes_of_load hload) hrun, ?_⟩
  intro event hevent
  obtain ⟨hbefore, hanswer⟩ := answer_of_mem hfresh hrun hevent
  refine ⟨?_, (counts_of_answer hbefore hanswer).le⟩
  intro hstep hfree word hword hdraws
  obtain ⟨before, call, result, after⟩ := event
  obtain rfl : call = .step := hstep
  obtain rfl : before.view.word = word := view_word hword
  obtain ⟨_, hdone⟩ := step_draw hfree hdraws
  exact if_pos (performs_of_step hfree hdraws hdone hanswer)

/-- Behind a reset of the counter, a sprite of three bytes and one of seven, with a program
that is too long, a wait for a key and a step that fails in between. -/
theorem drawn_bytes_are_counted_ten : ∃ (fresh last : Machine) (events : List Event),
    load [0xD0, 0x05, 0xD0, 0x03, 0xF0, 0x0A, 0xD0, 0x07, 0x00, 0xFF] 0 0 = .ok (.ok fresh) ∧
      fresh.run [.step, .resetDrawnBytes, .step, .reset (List.replicate 3585 0) 0 0, .step, .step,
        .setKeys 1, .step, .step] = .ok (events, last) ∧
      last.drawnBytes = 10 := by
  have hdraws : ∃ fresh,
      load [0xD0, 0x05, 0xD0, 0x03, 0xF0, 0x0A, 0xD0, 0x07, 0x00, 0xFF] 0 0 = .ok (.ok fresh) ∧
      ∃ events last, fresh.run [.step, .resetDrawnBytes, .step, .reset (List.replicate 3585 0) 0 0,
        .step, .step, .setKeys 1, .step, .step] = .ok (events, last) ∧
        drawnTotal (sinceStart events) = 10 := by
    decide +kernel
  obtain ⟨fresh, hload, events, last, hrun, htotal⟩ := hdraws
  obtain ⟨_, _, hsame, hcount, -⟩ := drawn_bytes_are_counted hload [.step, .resetDrawnBytes,
    .step, .reset (List.replicate 3585 0) 0 0, .step, .step, .setKeys 1, .step, .step]
  cases hrun.symm.trans hsame
  rw [htotal] at hcount
  exact ⟨fresh, last, events, hload, hrun, UInt32.toNat_inj.mp hcount⟩

end Machine

end Raw

end Chip8
