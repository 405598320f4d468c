import Mathlib.Logic.Relation
import Chip8.Proofs.Raw.Adjustments
import Chip8.Proofs.Raw.Safety

/-!
# Calls that can be made in either order

A tick does to the timers what it does whatever the keys are, and a step that uses neither
does not notice whether they were changed before it or will be changed after it.  Two such
calls next to each other can be exchanged, so lists of calls that differ by nothing but
exchanges of this kind lead to the same machine, with the same results of the steps.
-/

namespace Chip8.Raw.Machine

/-! ## Calls that do not interfere -/

/-- Neither of two calls has to do with what the other one changes. -/
inductive Independent (machine : Machine) : Machine.Call → Machine.Call → Prop where
  | tickSetKeys (mask : KeyMask) : Independent machine .tick (.setKeys mask)
  /-- The step waits for a key, or its word is none of `FX07`, `FX15` and `FX18`. -/
  | tickStep (hunused : machine.keys.isWaiting = true ∨
      ∀ word, machine.word = .ok word → ¬ UsesTimers word) : Independent machine .tick .step
  /-- The step does not wait for a key, and its word is none of `EX9E`, `EXA1` and `FX0A`. -/
  | setKeysStep (mask : KeyMask) (hfree : machine.keys.isWaiting = false)
      (hunused : ∀ word, machine.word = .ok word → ¬ UsesKeys word) :
      Independent machine (.setKeys mask) .step

/-- Two calls lead to the same machine in either order, each with the same result. -/
def Commute (machine : Machine) (first second : Machine.Call) : Prop :=
  ∃ firstResult secondResult afterFirst afterSecond last,
    machine.answer first = .ok (firstResult, afterFirst) ∧
      afterFirst.answer second = .ok (secondResult, last) ∧
      machine.answer second = .ok (secondResult, afterSecond) ∧
      afterSecond.answer first = .ok (firstResult, last)

/-- Two calls next to each other change places which are independent on the machine that
the calls before them lead to. -/
inductive Exchanges (machine : Machine) : List Machine.Call → List Machine.Call → Prop where
  | exchange (earlier later : List Machine.Call) {first second : Machine.Call} {now : Machine}
      (hnow : machine.afterAll earlier = .ok now) (hindependent : now.Independent first second) :
      Exchanges machine (earlier ++ first :: second :: later) (earlier ++ second :: first :: later)

/-- The results of the steps among some events. -/
def stepResults (events : List Event) : List (Except Fault Unit) :=
  (events.filter fun event => event.call = .step).map Event.result

/-- Two lists of calls lead to the same machine, with the same results of the steps. -/
def SameOutcome (machine : Machine) (calls others : List Machine.Call) : Prop :=
  ∃ events otherEvents last, machine.run calls = .ok (events, last) ∧
    machine.run others = .ok (otherEvents, last) ∧
    stepResults otherEvents = stepResults events

variable {machine next : Machine} {first second : Machine.Call}
  {calls others : List Machine.Call} {result : Except Fault Unit}

/-! ## Two calls -/

/-- A call that only adjusts a part commutes with one that does the same before and
after. -/
theorem commute_of_after {call other : Machine.Call} {adjustment : Adjustment}
    (hother : machine.answer other = .ok (result, next))
    (hbefore : machine.answer call = .ok (.ok (), adjustment.apply machine))
    (hafter : next.answer call = .ok (.ok (), adjustment.apply next))
    (hadjusted : (adjustment.apply machine).answer other
      = adjustment.after (machine.answer other)) :
    machine.Commute call other := by
  refine ⟨.ok (), result, adjustment.apply machine, next, adjustment.apply next, hbefore, ?_,
    hother, hafter⟩
  calc (adjustment.apply machine).answer other
      = adjustment.after (machine.answer other) := hadjusted
    _ = .ok (result, adjustment.apply next) := by rw [hother, Adjustment.after_ok]

/-- A tick adjusts the timers. -/
theorem tick_eq_apply (machine : Machine) :
    machine.answer .tick = .ok (.ok (), Adjustment.apply { timers := Timers.tick } machine) := rfl

/-- On a machine that does not wait, a new mask adjusts the keys. -/
theorem setKeys_eq_apply (hfree : machine.keys.isWaiting = false) (mask : KeyMask) :
    machine.answer (.setKeys mask) = .ok (.ok (),
      Adjustment.apply { keys := fun latch => { latch with mask := mask } } machine) := by
  have hwaiting : machine.keys.waiting = none :=
    Option.isNone_iff_eq_none.mp (Option.isSome_eq_false_iff.mp hfree)
  have hreplace : replaceMask machine.keys mask = (none, { machine.keys with mask := mask }) := by
    simp only [replaceMask, hwaiting]
  rw [answer, setKeys, hreplace]
  rfl

theorem commute_tick_setKeys (hmachine : machine.WellFormed) (mask : KeyMask) :
    machine.Commute .tick (.setKeys mask) := by
  obtain ⟨⟨result, next⟩, hset⟩ := hmachine.answersAll.call (.setKeys mask)
  exact commute_of_after hset machine.tick_eq_apply next.tick_eq_apply
    (Adjustment.setKeys_apply rfl mask)

theorem commute_tick_step (hmachine : machine.WellFormed)
    (hunused : machine.keys.isWaiting = false → ¬ UsesTimers machine.view.word) :
    machine.Commute .tick .step := by
  obtain ⟨⟨result, next⟩, hstep⟩ := hmachine.answersAll.call .step
  apply commute_of_after hstep machine.tick_eq_apply next.tick_eq_apply
  apply Adjustment.step_apply rfl
  intro hwaiting
  exact ⟨fun huses => absurd huses (hunused hwaiting), fun _ => rfl, fun _ => rfl⟩

theorem commute_setKeys_step (hmachine : machine.WellFormed) (mask : KeyMask)
    (hfree : machine.keys.isWaiting = false) (hunused : ¬ UsesKeys machine.view.word) :
    machine.Commute (.setKeys mask) .step := by
  obtain ⟨⟨result, next⟩, hstep⟩ := hmachine.answersAll.call .step
  have hstill : next.keys.isWaiting = false := by
    rw [keys_of_step (fun _ => hunused) hstep, hfree]
  apply commute_of_after hstep (setKeys_eq_apply hfree mask) (setKeys_eq_apply hstill mask)
  apply Adjustment.step_apply rfl
  intro _
  exact ⟨fun _ => rfl, fun huses => absurd huses hunused, fun _ => rfl⟩

theorem Independent.commute (hmachine : machine.WellFormed)
    (hindependent : machine.Independent first second) : machine.Commute first second := by
  have hword := machine.word_eq
  cases hindependent with
  | tickSetKeys mask => exact commute_tick_setKeys hmachine mask
  | tickStep hunused =>
      apply commute_tick_step hmachine
      intro hfree
      rcases hunused with hwaiting | hunused
      · rw [hfree] at hwaiting
        contradiction
      · exact hunused _ hword
  | setKeysStep mask hfree hunused =>
      exact commute_setKeys_step hmachine mask hfree (hunused _ hword)

/-! ## Several calls -/

theorem stepResults_append (events later : List Event) :
    stepResults (events ++ later) = stepResults events ++ stepResults later := by
  rw [stepResults, List.filter_append, List.map_append]
  rfl

theorem SameOutcome.symm (hsame : machine.SameOutcome calls others) :
    machine.SameOutcome others calls := by
  obtain ⟨events, otherEvents, last, hcalls, hothers, hresults⟩ := hsame
  exact ⟨otherEvents, events, last, hothers, hcalls, hresults.symm⟩

theorem SameOutcome.trans {third : List Machine.Call} (hfirst : machine.SameOutcome calls others)
    (hsecond : machine.SameOutcome others third) : machine.SameOutcome calls third := by
  obtain ⟨events, otherEvents, last, hcalls, hothers, hresults⟩ := hfirst
  obtain ⟨middleEvents, thirdEvents, final, hmiddle, hthird, hlater⟩ := hsecond
  rw [hothers] at hmiddle
  cases hmiddle
  exact ⟨events, thirdEvents, last, hcalls, hthird, hlater.trans hresults⟩

/-- One exchange makes no difference. -/
theorem Exchanges.sameOutcome (hmachine : machine.WellFormed)
    (hexchange : machine.Exchanges calls others) : machine.SameOutcome calls others := by
  cases hexchange with
  | @exchange earlier later first second now hnow hindependent =>
      obtain ⟨past, middle, hpast, hmiddle⟩ := exists_run hmachine earlier
      have hsame : middle = now := by
        rw [afterAll_of_run hpast] at hnow
        exact Except.ok.inj hnow
      subst hsame
      obtain ⟨firstResult, secondResult, afterFirst, afterSecond, final, hfirst, hthen, hsecond,
        hback⟩ := hindependent.commute hmiddle
      have hboth : middle.run [first, second]
          = .ok ([⟨middle, first, firstResult, afterFirst⟩,
            ⟨afterFirst, second, secondResult, final⟩], final) :=
        run_cons hfirst (run_cons hthen rfl)
      obtain ⟨future, last, hfuture, -⟩ := exists_run (wellFormed_of_run hmiddle hboth) later
      refine ⟨_, _, last,
        run_append_iff.mpr ⟨past, middle, _, hpast, run_cons hfirst (run_cons hthen hfuture), rfl⟩,
        run_append_iff.mpr ⟨past, middle, _, hpast, run_cons hsecond (run_cons hback hfuture), rfl⟩,
        ?_⟩
      rw [stepResults_append, stepResults_append]
      -- at most one of the two calls is a step
      cases hindependent with
      | tickSetKeys mask => rfl
      | tickStep hunused => rfl
      | setKeysStep mask hfree hunused => rfl

theorem sameOutcome_of_eqvGen (hmachine : machine.WellFormed)
    (hexchanges : Relation.EqvGen machine.Exchanges calls others) :
    machine.SameOutcome calls others := by
  induction hexchanges with
  | rel calls others hexchange => exact hexchange.sameOutcome hmachine
  | refl calls =>
      obtain ⟨events, last, hrun, -⟩ := exists_run hmachine calls
      exact ⟨events, events, last, hrun, hrun, rfl⟩
  | symm calls others _ ih => exact ih.symm
  | trans calls others third _ _ hfirst hsecond => exact hfirst.trans hsecond

/-- Independent calls can be made in either order.  Lists of calls that differ only by such
exchanges lead a reachable machine to the same machine, with the same results of the
steps. -/
theorem independent_calls_commute (hreachable : machine.Reachable) :
    (∀ first second, machine.Independent first second → machine.Commute first second) ∧
      ∀ calls others, Relation.EqvGen machine.Exchanges calls others →
        machine.SameOutcome calls others := by
  have hmachine := hreachable.wellFormed
  refine ⟨?_, ?_⟩
  · intro first second hindependent
    exact hindependent.commute hmachine
  · intro calls others hexchanges
    exact sameOutcome_of_eqvGen hmachine hexchanges

/-- A key that goes down before `6005` is carried out, or after the tick that follows. -/
theorem independent_calls_commute_set : ∃ fresh : Machine,
    load [0x60, 0x05] 0 0 = .ok (.ok fresh) ∧ fresh.Commute (.setKeys 1) .step ∧
      fresh.SameOutcome [.setKeys 1, .step, .tick] [.step, .tick, .setKeys 1] := by
  have hstart : ∃ fresh, load [0x60, 0x05] 0 0 = .ok (.ok fresh) ∧
      ∃ middle, fresh.afterAll [.step] = .ok middle ∧
        fresh.keys.isWaiting = false ∧ fresh.word = .ok 0x6005 := by
    decide +kernel
  obtain ⟨fresh, hload, middle, hmiddle, hfree, hword⟩ := hstart
  have hfirst : fresh.Independent (.setKeys 1) .step := by
    refine .setKeysStep 1 hfree ?_
    intro word hfound
    rw [hword] at hfound
    cases hfound
    decide
  have hboth : Relation.EqvGen fresh.Exchanges [.setKeys 1, .step, .tick]
      [.step, .tick, .setKeys 1] := by
    apply Relation.EqvGen.trans _ [.step, .setKeys 1, .tick] _
    · exact .rel _ _ (.exchange [] [.tick] rfl hfirst)
    · exact .symm _ _ (.rel _ _ (.exchange [.step] [] hmiddle (.tickSetKeys 1)))
  obtain ⟨hcommute, hsame⟩ := independent_calls_commute ⟨_, 0, 0, [], fresh, hload, rfl⟩
  exact ⟨fresh, hload, hcommute _ _ hfirst, hsame _ _ hboth⟩

end Chip8.Raw.Machine
