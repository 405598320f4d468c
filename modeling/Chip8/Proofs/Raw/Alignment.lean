import Chip8.Proofs.Machine.Moving
import Chip8.Proofs.Raw.Events

/-!
# Even addresses

Instructions take two bytes and programs start at an even address, so the counter moves
from one even address to the next, also around the end of memory.  An odd address can
enter a machine only as the target of a jump: skips go on by an even distance, and a
return goes back behind a call that was at an even address itself.  For this the return
addresses on the stack have to be followed together with the counter.
-/

namespace Chip8.Raw

/-! ## Jumps to odd addresses -/

/-- A word `1NNN` or `2NNN` whose target is odd, or a `BNNN` whose target together with V0
is. -/
def Machine.TurnsOdd (machine : Machine) (word : UInt16) : Prop :=
  (word.toNat / 0x1000 = 0x1 ∨ word.toNat / 0x1000 = 0x2) ∧ word.toNat % 0x1000 % 2 = 1 ∨
  word.toNat / 0x1000 = 0xB ∧
    (word.toNat % 0x1000 + (machine.registers.get Register.v0).toNat) % 2 = 1

instance (machine : Machine) : DecidablePred machine.TurnsOdd :=
  fun _ => inferInstanceAs (Decidable (_ ∧ _ ∨ _ ∧ _))

/-- A jump to an odd address is carried out. -/
def Event.JumpsToOdd (event : Event) : Prop :=
  event.Performs event.before.TurnsOdd

instance : DecidablePred Event.JumpsToOdd :=
  fun event => inferInstanceAs (Decidable (event.Performs event.before.TurnsOdd))

namespace Machine

variable {machine next last : Machine} {call : Machine.Call} {calls : List Machine.Call}
  {result : Except Fault Unit} {events : List Event}

/-- The counter and all return addresses are even. -/
structure Aligned (machine : Machine) : Prop where
  counter_even : machine.counter.toNat % 2 = 0
  saved_even : ∀ place : Fin 16, place.val < machine.stack.pointer →
    (machine.stack.frames.get place).toNat % 2 = 0

/-- The instruction at the counter is read from the cell there and from the one behind it,
which is not the first cell of memory again. -/
structure FetchesInPlace (machine : Machine) : Prop where
  second_lt : machine.counter.toNat + 1 < 4096
  word_eq : machine.word = .ok (UInt16.ofNat
    (256 * (machine.memory.read (Address.ofNat machine.counter.toNat)).toNat
      + (machine.memory.read (Address.ofNat (machine.counter.toNat + 1))).toNat))

/-! ## The machine that a stored one stands for -/

theorem mem_saved {address : Address} : address ∈ machine.saved ↔
    ∃ place : Fin 16, place.val < machine.stack.pointer ∧
      addressOf (machine.stack.frames.get place) = address := by
  simp only [saved, view, CallStack.view, Chip8.CallStack.toList, List.mem_reverse,
    List.mem_take_iff_getElem, Vector.length_toList, Vector.getElem_toList, Vector.getElem_map]
  constructor
  · rintro ⟨place, hplace, rfl⟩
    exact ⟨⟨place, by omega⟩, by simp only; omega, rfl⟩
  · rintro ⟨place, hplace, rfl⟩
    exact ⟨place.val, by omega, rfl⟩

/-- Half of the addresses are even, so cutting a word off leaves it odd or even. -/
theorem addressOf_mod_two (word : UInt16) : (addressOf word).val % 2 = word.toNat % 2 := by
  have hval : (addressOf word).val = word.toNat % 4096 := rfl
  omega

theorem aligned_iff : machine.Aligned ↔
    machine.view.counter.val % 2 = 0 ∧ ∀ address ∈ machine.saved, address.val % 2 = 0 := by
  have hcounter : machine.view.counter.val % 2 = machine.counter.toNat % 2 :=
    addressOf_mod_two machine.counter
  rw [hcounter]
  constructor
  · intro haligned
    refine ⟨haligned.counter_even, ?_⟩
    intro address haddress
    obtain ⟨place, hplace, rfl⟩ := mem_saved.mp haddress
    rw [addressOf_mod_two]
    exact haligned.saved_even place hplace
  · rintro ⟨heven, hsaved⟩
    refine ⟨heven, ?_⟩
    intro place hplace
    rw [← addressOf_mod_two]
    exact hsaved _ (mem_saved.mpr ⟨place, hplace, rfl⟩)

/-! ## One call -/

/-- A call saves the address behind it, which is even if its own is; nothing else is
added to the stack. -/
theorem Aligned.saved_of_stacking (haligned : machine.Aligned)
    (hstacking : machine.view.Stacking machine.view.word next.view) :
    ∀ address ∈ next.saved, address.val % 2 = 0 := by
  obtain ⟨hcounter, hsaved⟩ := aligned_iff.mp haligned
  cases hstacking with
  | called hlead hstack =>
      have hpushed : next.saved = machine.view.counter.offset 2 :: machine.saved := hstack
      rw [hpushed, List.forall_mem_cons, Address.val_offset]
      exact ⟨by omega, hsaved⟩
  | returned hword hstack =>
      have hpopped : machine.saved = next.view.counter :: next.saved := hstack
      rw [hpopped, List.forall_mem_cons] at hsaved
      exact hsaved.2
  | kept hlead hword hstack =>
      have hkept : next.saved = machine.saved := hstack
      rw [hkept]
      exact hsaved

/-- Only the target of a jump decides whether the counter becomes odd. -/
theorem Aligned.counter_of_moving (haligned : machine.Aligned)
    (hmoving : machine.view.Moving machine.view.word next.view)
    (hstacking : machine.view.Stacking machine.view.word next.view)
    (heven : ¬ machine.TurnsOdd machine.view.word) : next.view.counter.val % 2 = 0 := by
  obtain ⟨hcounter, hsaved⟩ := aligned_iff.mp haligned
  cases hmoving with
  | onward distance hdistance hnext =>
      rw [hnext, Address.val_offset]
      omega
  | jumped hlead hnext =>
      have htarget : ¬ machine.view.word.toNat % 0x1000 % 2 = 1 :=
        fun hodd => heven (.inl ⟨hlead, hodd⟩)
      rw [hnext, Address.ofNat, Fin.val_ofNat]
      omega
  | jumpedByV0 hlead hnext =>
      have htarget : ¬ (machine.view.word.toNat % 0x1000
          + (machine.view.register .v0).toNat) % 2 = 1 :=
        fun hodd => heven (.inr ⟨hlead, hodd⟩)
      rw [hnext, Address.ofNat, Fin.val_ofNat]
      omega
  | returned hword =>
      rw [hword] at hstacking
      have hpopped : machine.saved = next.view.counter :: next.saved := hstacking.of_return
      rw [hpopped, List.forall_mem_cons] at hsaved
      exact hsaved.1

/-- A machine starts at an even address, with an empty stack. -/
theorem aligned_of_load {program : List UInt8} {seed initialFlags : UInt64} {fresh : Machine}
    (hload : load program seed initialFlags = .ok (.ok fresh)) : fresh.Aligned := by
  obtain ⟨-, htyped⟩ := wellFormed_of_load hload
  have hempty := pointer_of_load hload
  refine aligned_iff.mpr ⟨?_, ?_⟩
  · rw [Chip8.Machine.counter_of_load htyped]
    decide
  · intro address haddress
    obtain ⟨place, hplace, -⟩ := mem_saved.mp haddress
    omega

/-- Whatever is done to a machine with even addresses leaves them even, unless a jump to an
odd one is carried out. -/
theorem Aligned.of_answer (haligned : machine.Aligned) (hmachine : machine.WellFormed)
    (hanswer : machine.answer call = .ok (result, next))
    (heven : ¬ Event.JumpsToOdd ⟨machine, call, result, next⟩) : next.Aligned := by
  cases call with
  | step =>
      cases result with
      | error fault => rwa [eq_of_step_error hmachine hanswer]
      | ok done =>
          cases hwaiting : machine.keys.isWaiting with
          | true =>
              rw [answer, step, if_pos hwaiting] at hanswer
              cases hanswer
              exact haligned
          | false =>
              have hmoving := Chip8.Machine.moving_of_step
                (machine.isWaiting_view.trans hwaiting) (view_of_step hmachine hanswer)
              obtain ⟨-, hstacking⟩ := stacking_of_step hmachine hwaiting hanswer
              have hword : ¬ machine.TurnsOdd machine.view.word := by
                intro hodd
                exact heven (performs_of_step hwaiting hodd hanswer hanswer)
              exact aligned_iff.mpr ⟨haligned.counter_of_moving hmoving hstacking hword,
                haligned.saved_of_stacking hstacking⟩
  | tick | acknowledgeScreen | acknowledgeFlags | resetDrawnBytes =>
      cases hanswer
      exact ⟨haligned.counter_even, haligned.saved_even⟩
  | setKeys mask =>
      obtain ⟨rfl, registers, keys, rfl⟩ := kept_of_setKeys hanswer
      exact ⟨haligned.counter_even, haligned.saved_even⟩
  | reset program seed initialFlags =>
      rcases answer_reset_cases hanswer with ⟨fault, -, rfl⟩ | ⟨-, hload⟩
      · exact haligned
      · exact aligned_of_load hload

/-- No instruction lies across the end of memory if its address is even. -/
theorem Aligned.fetchesInPlace (haligned : machine.Aligned) (hmachine : machine.WellFormed) :
    machine.FetchesInPlace := by
  have heven := haligned.counter_even
  have hcounter := hmachine.counter_lt
  refine ⟨by omega, ?_⟩
  have hsecond : machine.view.counter.offset 1 = Address.ofNat (machine.counter.toNat + 1) := by
    apply Fin.ext
    show (machine.counter.toNat % 4096 + 1) % 4096 = (machine.counter.toNat + 1) % 4096
    omega
  rw [word_eq, ← hsecond]
  rfl

/-! ## Several calls -/

theorem Aligned.of_run (haligned : machine.Aligned) (hmachine : machine.WellFormed)
    (hrun : machine.run calls = .ok (events, last))
    (heven : ∀ event ∈ events, ¬ event.JumpsToOdd) : last.Aligned := by
  induction calls generalizing machine events with
  | nil =>
      cases hrun
      exact haligned
  | cons call rest ih =>
      obtain ⟨result, next, later, hanswer, hlater, rfl⟩ := run_cons_cases hrun
      have hfirst := haligned.of_answer hmachine hanswer (heven _ List.mem_cons_self)
      have hone : machine.run [call] = .ok ([⟨machine, call, result, next⟩], next) :=
        run_cons hanswer rfl
      have hnext := wellFormed_of_run hmachine hone
      exact ih hfirst hnext hlater fun event hevent => heven event (List.mem_cons_of_mem _ hevent)

/-- As long as no jump to an odd address is carried out, the counter and all return
addresses are even before and after everything that is done to a machine, so that no
instruction lies across the end of memory.  Nothing but such a jump makes any of them odd. -/
theorem counters_stay_even {program : List UInt8} {seed initialFlags : UInt64}
    {fresh : Machine} (hload : load program seed initialFlags = .ok (.ok fresh))
    (calls : List Machine.Call) :
    ∃ events last, fresh.run calls = .ok (events, last) ∧
      ((∀ event ∈ events, ¬ event.JumpsToOdd) →
        (∀ event ∈ events, event.before.Aligned ∧ event.before.FetchesInPlace) ∧
          last.Aligned ∧ last.FetchesInPlace) ∧
      ∀ event ∈ events, event.before.Aligned → ¬ event.after.Aligned → event.JumpsToOdd := by
  obtain ⟨hfresh, -⟩ := wellFormed_of_load hload
  obtain ⟨events, last, hrun, hlast⟩ := exists_run hfresh calls
  have hstart := aligned_of_load hload
  refine ⟨events, last, hrun, ?_, ?_⟩
  · intro heven
    refine ⟨?_, ?_⟩
    · intro event hevent
      -- what comes before an event is a run of its own
      obtain ⟨earlier, later, rfl⟩ := List.append_of_mem hevent
      obtain ⟨past, future, -, hpast, -, -⟩ := run_split hrun
      have hbefore := hstart.of_run hfresh hpast fun other hother =>
        heven other (List.mem_append_left _ hother)
      exact ⟨hbefore, hbefore.fetchesInPlace (wellFormed_of_run hfresh hpast)⟩
    · have hend := hstart.of_run hfresh hrun heven
      exact ⟨hend, hend.fetchesInPlace hlast⟩
  · intro event hevent haligned hodd
    obtain ⟨hbefore, hanswer⟩ := answer_of_mem hfresh hrun hevent
    by_contra heven
    exact hodd (haligned.of_answer hbefore hanswer heven)

/-- A subroutine sets V0 to 1, and its caller goes back to the start by `B1FF`. -/
theorem counters_stay_even_loop : ∃ (fresh last : Machine) (events : List Event),
    load [0x22, 0x04, 0xB1, 0xFF, 0x60, 0x01, 0x00, 0xEE] 0 0 = .ok (.ok fresh) ∧
      fresh.run [.step, .step, .step, .step] = .ok (events, last) ∧
      (∀ event ∈ events, ¬ event.JumpsToOdd) ∧ last.counter = 0x200 ∧ last.Aligned ∧
      last.FetchesInPlace := by
  have hloops : ∃ fresh,
      load [0x22, 0x04, 0xB1, 0xFF, 0x60, 0x01, 0x00, 0xEE] 0 0 = .ok (.ok fresh) ∧
      ∃ events last, fresh.run [.step, .step, .step, .step] = .ok (events, last) ∧
        (∀ event ∈ events, ¬ event.JumpsToOdd) ∧ last.counter = 0x200 := by
    decide +kernel
  obtain ⟨fresh, hload, events, last, hrun, heven, hcounter⟩ := hloops
  obtain ⟨_, _, hsame, haligned, -⟩ := counters_stay_even hload [.step, .step, .step, .step]
  cases hrun.symm.trans hsame
  obtain ⟨-, hlast, hfetches⟩ := haligned heven
  exact ⟨fresh, last, events, hload, hrun, heven, hcounter, hlast, hfetches⟩

end Machine

end Chip8.Raw
