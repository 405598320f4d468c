import Chip8.Proofs.Raw.Returns

/-!
# What happens in the course of some calls

A list of calls on a stored machine as a list of events, one for each call, with the
machine before and after it.  What each event does to the machine can then be said of
all of them, of the last one, or of those before some point.
-/

namespace Chip8.Raw

/-- A call on a machine, its result, and the machine before and after it. -/
structure Event where
  before : Machine
  call : Machine.Call
  result : Except Fault Unit
  after : Machine

namespace Event

/-- An instruction is carried out. -/
def CarriesOut (event : Event) : Prop :=
  event.before.CarriesOut event.call event.result

/-- An instruction is carried out whose word is of a kind. -/
def Performs (kind : UInt16 → Prop) (event : Event) : Prop :=
  event.CarriesOut ∧ ∃ word, event.before.word = .ok word ∧ kind word

/-- The event is the last of a kind among some. -/
def IsLast (kind : Event → Prop) (events : List Event) (event : Event) : Prop :=
  ∃ earlier later, events = earlier ++ event :: later ∧ kind event ∧
    ∀ other ∈ later, ¬ kind other

theorem performs_iff {kind : UInt16 → Prop} {event : Event} :
    event.Performs kind ↔ event.CarriesOut ∧ kind event.before.view.word := by
  simp only [Performs, Machine.word_eq, Except.ok.injEq, exists_eq_left']

instance (event : Event) : Decidable event.CarriesOut :=
  inferInstanceAs (Decidable (event.before.CarriesOut event.call event.result))

instance (kind : UInt16 → Prop) [DecidablePred kind] : DecidablePred (Performs kind) :=
  fun _ => decidable_of_iff _ performs_iff.symm

end Event

namespace Machine

variable {machine next last : Machine} {call : Machine.Call} {calls others : List Machine.Call}
  {result : Except Fault Unit} {events : List Event}

/-- A step that succeeds without waiting for a key carries out an instruction of every kind
that the word at the counter is of. -/
theorem performs_of_step {kind : UInt16 → Prop} (hfree : machine.keys.isWaiting = false)
    (hkind : kind machine.view.word) (hsucceeds : machine.step = .ok (.ok (), last))
    (hstep : machine.step = .ok (result, next)) :
    Event.Performs kind ⟨machine, .step, result, next⟩ := by
  rw [hstep] at hsucceeds
  cases hsucceeds
  exact Event.performs_iff.mpr ⟨⟨rfl, hfree, rfl⟩, hkind⟩

theorem NoReset.tail (hcalls : NoReset (call :: calls)) : NoReset calls :=
  fun other hother => hcalls other (List.mem_cons_of_mem call hother)

theorem NoReset.of_append (hcalls : NoReset (calls ++ others)) :
    NoReset calls ∧ NoReset others :=
  ⟨fun call hcall => hcalls call (List.mem_append_left others hcall),
    fun call hcall => hcalls call (List.mem_append_right calls hcall)⟩

/-- What happens in the course of some calls, and the machine after all of them. -/
def run (machine : Machine) : List Machine.Call → Checked (List Event × Machine)
  | [] => return ([], machine)
  | call :: rest => do
      let (result, next) ← machine.answer call
      let (events, last) ← next.run rest
      return (⟨machine, call, result, next⟩ :: events, last)

theorem run_cons (hanswer : machine.answer call = .ok (result, next))
    (hrun : next.run calls = .ok (events, last)) :
    machine.run (call :: calls) = .ok (⟨machine, call, result, next⟩ :: events, last) := by
  simp only [run, hanswer, ok_bind, hrun, pure_eq_ok]

/-- The first event is that of the first call. -/
theorem run_cons_cases (hrun : machine.run (call :: calls) = .ok (events, last)) :
    ∃ result next later, machine.answer call = .ok (result, next) ∧
      next.run calls = .ok (later, last) ∧ events = ⟨machine, call, result, next⟩ :: later := by
  obtain ⟨⟨result, next⟩, hanswer, hrest⟩ := bind_eq_ok.mp hrun
  obtain ⟨⟨later, final⟩, hlater, hdone⟩ := bind_eq_ok.mp hrest
  cases hdone
  exact ⟨result, next, later, hanswer, hlater, rfl⟩

theorem run_append_iff : machine.run (calls ++ others) = .ok (events, last) ↔
    ∃ earlier middle later, machine.run calls = .ok (earlier, middle) ∧
      middle.run others = .ok (later, last) ∧ events = earlier ++ later := by
  induction calls generalizing machine events with
  | nil =>
      constructor
      · intro hrun
        exact ⟨[], machine, events, rfl, hrun, rfl⟩
      · rintro ⟨earlier, middle, later, hearlier, hlater, rfl⟩
        cases hearlier
        exact hlater
  | cons call rest ih =>
      constructor
      · intro hrun
        obtain ⟨result, next, tail, hanswer, htail, rfl⟩ := run_cons_cases hrun
        obtain ⟨earlier, middle, later, hearlier, hlater, rfl⟩ := ih.mp htail
        exact ⟨_, middle, later, run_cons hanswer hearlier, hlater, rfl⟩
      · rintro ⟨earlier, middle, later, hearlier, hlater, rfl⟩
        obtain ⟨result, next, tail, hanswer, htail, rfl⟩ := run_cons_cases hearlier
        exact run_cons hanswer (ih.mpr ⟨tail, middle, later, htail, hlater, rfl⟩)

/-- The last event is that of the last call. -/
theorem run_concat_cases (hrun : machine.run (calls ++ [call]) = .ok (events, last)) :
    ∃ earlier middle result, machine.run calls = .ok (earlier, middle) ∧
      middle.answer call = .ok (result, last) ∧
      events = earlier ++ [⟨middle, call, result, last⟩] := by
  obtain ⟨earlier, middle, later, hearlier, hlater, rfl⟩ := run_append_iff.mp hrun
  obtain ⟨result, next, rest, hanswer, hrest, rfl⟩ := run_cons_cases hlater
  cases hrest
  exact ⟨earlier, middle, result, hearlier, hanswer, rfl⟩

/-- A well-formed machine gets through any calls. -/
theorem exists_run (hmachine : machine.WellFormed) (calls : List Machine.Call) :
    ∃ events last, machine.run calls = .ok (events, last) ∧ last.WellFormed := by
  induction calls generalizing machine with
  | nil => exact ⟨[], machine, rfl, hmachine⟩
  | cons call rest ih =>
      rcases answer_cases hmachine call with ⟨next, hanswer, hnext, -⟩ | ⟨fault, hanswer, -⟩
      · obtain ⟨events, last, hrun, hlast⟩ := ih hnext
        exact ⟨_, last, run_cons hanswer hrun, hlast⟩
      · obtain ⟨events, last, hrun, hlast⟩ := ih hmachine
        exact ⟨_, last, run_cons hanswer hrun, hlast⟩

theorem wellFormed_of_run (hmachine : machine.WellFormed)
    (hrun : machine.run calls = .ok (events, last)) : last.WellFormed := by
  obtain ⟨_, other, hother, hwell⟩ := exists_run hmachine calls
  rw [hrun] at hother
  cases hother
  exact hwell

/-- Each event is that of one of the calls, between those before it and those after it. -/
theorem run_split {earlier later : List Event} {event : Event}
    (hrun : machine.run calls = .ok (earlier ++ event :: later, last)) :
    ∃ past future, calls = past ++ event.call :: future ∧
      machine.run past = .ok (earlier, event.before) ∧
      event.before.answer event.call = .ok (event.result, event.after) ∧
      event.after.run future = .ok (later, last) := by
  induction earlier generalizing machine calls with
  | nil =>
      cases calls with
      | nil => cases hrun
      | cons call rest =>
          obtain ⟨result, next, others, hanswer, hothers, hevents⟩ := run_cons_cases hrun
          obtain ⟨rfl, rfl⟩ := List.cons.inj hevents
          exact ⟨[], rest, rfl, rfl, hanswer, hothers⟩
  | cons first earlier ih =>
      cases calls with
      | nil => cases hrun
      | cons call rest =>
          obtain ⟨result, next, others, hanswer, hothers, hevents⟩ := run_cons_cases hrun
          obtain ⟨rfl, rfl⟩ := List.cons.inj hevents
          obtain ⟨past, future, rfl, hpast, hevent, hfuture⟩ := ih hothers
          exact ⟨call :: past, future, rfl, run_cons hanswer hpast, hevent, hfuture⟩

theorem answer_of_mem {event : Event} (hmachine : machine.WellFormed)
    (hrun : machine.run calls = .ok (events, last)) (hevent : event ∈ events) :
    event.before.WellFormed ∧
      event.before.answer event.call = .ok (event.result, event.after) := by
  obtain ⟨earlier, later, rfl⟩ := List.append_of_mem hevent
  obtain ⟨past, future, -, hpast, hanswer, -⟩ := run_split hrun
  exact ⟨wellFormed_of_run hmachine hpast, hanswer⟩

theorem call_mem_of_run {event : Event} (hrun : machine.run calls = .ok (events, last))
    (hevent : event ∈ events) : event.call ∈ calls := by
  obtain ⟨earlier, later, rfl⟩ := List.append_of_mem hevent
  obtain ⟨past, future, rfl, -⟩ := run_split hrun
  exact List.mem_append_right past List.mem_cons_self

/-- What each event keeps is the same in the end. -/
theorem kept_of_run {Part : Type} (part : Machine → Part)
    (hrun : machine.run calls = .ok (events, last))
    (hkept : ∀ event ∈ events, part event.after = part event.before) :
    part last = part machine := by
  induction calls generalizing machine events with
  | nil =>
      cases hrun
      rfl
  | cons call rest ih =>
      obtain ⟨result, next, later, -, hlater, rfl⟩ := run_cons_cases hrun
      rw [List.forall_mem_cons] at hkept
      exact (ih hlater hkept.2).trans hkept.1

theorem afterAll_of_run (hrun : machine.run calls = .ok (events, last)) :
    machine.afterAll calls = .ok last := by
  induction calls generalizing machine events with
  | nil =>
      cases hrun
      rfl
  | cons call rest ih =>
      obtain ⟨result, next, later, hanswer, hlater, -⟩ := run_cons_cases hrun
      rw [afterAll_cons hanswer]
      exact ih hlater

end Machine

end Chip8.Raw
