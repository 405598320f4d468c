import Chip8.Proofs.Raw.Adjustments

/-!
# What random bytes are spent on

Each `CXNN` that is carried out takes one byte of the random generator, and nothing else
does: not a step that fails or waits for a key, and not what the host does.  So the place
of a byte in the stream of the seed is the number of such instructions before it.  As long
as there was none, nothing but the generator itself tells one seed from another.
-/

namespace Chip8.Random

/-- The generator from the start of a stream on. -/
theorem next_iterate (seed : UInt64) (count : Nat) :
    (fun random : Random => random.next.2)^[count] { seed := seed }
      = { seed := seed, position := count } := by
  induction count with
  | zero => rfl
  | succ count ih =>
      rw [Function.iterate_succ_apply', ih]
      rfl

end Chip8.Random

namespace Chip8.Raw

/-! ## Bytes that are taken -/

/-- How many of some events carry out `CXNN`. -/
def bytesDrawn (events : List Event) : Nat :=
  events.countP fun event => event.Performs DrawsByte

theorem bytesDrawn_cons_of_performs {event : Event} (hdraws : event.Performs DrawsByte)
    (later : List Event) : bytesDrawn (event :: later) = bytesDrawn later + 1 :=
  List.countP_cons_of_pos (decide_eq_true hdraws)

theorem bytesDrawn_cons_of_not {event : Event} (hidle : ¬ event.Performs DrawsByte)
    (later : List Event) : bytesDrawn (event :: later) = bytesDrawn later :=
  List.countP_cons_of_neg fun hdraws => hidle (of_decide_eq_true hdraws)

namespace Event

/-- The byte at a place in the stream of a seed, masked with NN, goes to VX, and the
generator moves on by one. -/
structure TakesByte (seed : UInt64) (place : Nat) (event : Event) : Prop where
  register : ∀ word, event.before.word = .ok word → ∀ x : Register,
    x.val = word.toNat / 0x100 % 0x10 →
    event.after.registers.get x = Random.stream seed place &&& word.toUInt8
  random : event.after.random = event.before.random.next.2

/-- The same event on machines with another generator. -/
def withRandom (random : Random) (event : Event) : Event :=
  { event with
    before := { event.before with random := random }
    after := { event.after with random := random } }

end Event

namespace Machine

variable {machine next last : Machine} {call : Machine.Call} {calls : List Machine.Call}
  {result : Except Fault Unit} {events : List Event}

/-! ## One call -/

/-- `CXNN` can always be carried out. -/
theorem step_random (hfree : machine.keys.isWaiting = false)
    (hdraws : DrawsByte machine.view.word) :
    ∃ next, machine.step = .ok (.ok (), next) ∧ next.random = machine.random.next.2 ∧
      next.registers.get (lastDigit (machine.view.word.toNat / 0x100))
        = machine.random.next.1 &&& machine.view.word.toUInt8 := by
  have hexecute : ∀ (x : Register) (mask : UInt8), machine.execute (stored (.random x mask))
      = .ok (.ok .next, withRegister { machine with random := machine.random.next.2 } x
          (machine.random.next.1 &&& mask)) := by
    intro x mask
    simp only [stored, InstructionForm.map, execute, setRegister_eq, lastDigit_ofNat, ok_bind,
      pure_eq_ok]
  refine ⟨_, step_of_execute hfree (Instruction.decode?_random hdraws) (hexecute _ _), rfl, ?_⟩
  exact Vector.getElem_set_self _

/-- A call that carries out no `CXNN` leaves the generator alone. -/
theorem random_of_answer (hmachine : machine.WellFormed)
    (hreset : ∀ program seed initialFlags, call ≠ .reset program seed initialFlags)
    (hanswer : machine.answer call = .ok (result, next))
    (hidle : ¬ Event.Performs DrawsByte ⟨machine, call, result, next⟩) :
    next.random = machine.random := by
  cases call with
  | step =>
      cases result with
      | error fault => rw [eq_of_step_error hmachine hanswer]
      | ok done =>
          apply random_of_step _ hanswer
          intro hfree hdraws
          exact hidle (performs_of_step hfree hdraws hanswer hanswer)
  | tick | acknowledgeScreen | acknowledgeFlags | resetDrawnBytes =>
      cases hanswer
      rfl
  | setKeys mask =>
      obtain ⟨rfl, registers, keys, rfl⟩ := kept_of_setKeys hanswer
      rfl
  | reset program seed initialFlags => exact absurd rfl (hreset program seed initialFlags)

/-- A call that carries out `CXNN` takes the next byte. -/
theorem takesByte_of_answer {seed : UInt64} {place : Nat}
    (hrandom : machine.random = { seed := seed, position := place })
    (hanswer : machine.answer call = .ok (result, next))
    (hdraws : Event.Performs DrawsByte ⟨machine, call, result, next⟩) :
    Event.TakesByte seed place ⟨machine, call, result, next⟩ := by
  obtain ⟨⟨rfl, hfree, rfl⟩, hlead⟩ := Event.performs_iff.mp hdraws
  obtain ⟨after, hstep, hafter, hregister⟩ := step_random hfree hlead
  have hsame : machine.step = .ok (.ok (), next) := hanswer
  rw [hstep] at hsame
  cases hsame
  refine ⟨?_, hafter⟩
  intro word hword x hx
  obtain rfl : machine.view.word = word := view_word hword
  obtain rfl : x = lastDigit (machine.view.word.toNat / 0x100) := Fin.ext hx
  rw [hregister, hrandom]
  rfl

/-- A call that carries out no `CXNN` does the same with any other generator. -/
theorem answer_withRandom (random : Random)
    (hreset : ∀ program seed initialFlags, call ≠ .reset program seed initialFlags)
    (hanswer : machine.answer call = .ok (result, next))
    (hidle : ¬ Event.Performs DrawsByte ⟨machine, call, result, next⟩) :
    Machine.answer { machine with random := random } call
      = .ok (result, { next with random := random }) := by
  let adjustment : Adjustment := { random := fun _ => random }
  have hadjusted : (adjustment.apply machine).answer call
      = adjustment.after (machine.answer call) := by
    cases call with
    | step =>
        apply Adjustment.step_apply rfl
        intro hfree
        -- `CXNN` would have been carried out
        refine ⟨fun _ => rfl, fun _ => rfl, ?_⟩
        intro hdraws
        obtain ⟨_, hdone, -⟩ := step_random hfree hdraws
        exact absurd (performs_of_step hfree hdraws hdone hanswer) hidle
    | tick | acknowledgeScreen | acknowledgeFlags | resetDrawnBytes => rfl
    | setKeys mask => exact Adjustment.setKeys_apply rfl mask
    | reset program seed initialFlags => exact absurd rfl (hreset program seed initialFlags)
  calc (adjustment.apply machine).answer call
      = adjustment.after (machine.answer call) := hadjusted
    _ = .ok (result, adjustment.apply next) := by rw [hanswer, Adjustment.after_ok]

/-! ## Several calls -/

/-- The generator has moved on by as many bytes as were drawn. -/
theorem random_of_run (hmachine : machine.WellFormed) (hcalls : NoReset calls)
    (hrun : machine.run calls = .ok (events, last)) :
    last.random = (fun random => random.next.2)^[bytesDrawn events] machine.random := by
  induction calls generalizing machine events with
  | nil =>
      cases hrun
      rfl
  | cons call rest ih =>
      obtain ⟨result, next, later, hanswer, hlater, rfl⟩ := run_cons_cases hrun
      have hcall := hcalls call List.mem_cons_self
      have hrest := ih (stacks_of_answer hmachine hcall hanswer).1 hcalls.tail hlater
      by_cases hdraws : Event.Performs DrawsByte ⟨machine, call, result, next⟩
      · have htakes := takesByte_of_answer rfl hanswer hdraws
        rw [bytesDrawn_cons_of_performs hdraws, Function.iterate_succ_apply, hrest]
        exact congrArg _ htakes.random
      · have hsame := random_of_answer hmachine hcall hanswer hdraws
        rw [bytesDrawn_cons_of_not hdraws, hrest, hsame]

/-- Calls that carry out no `CXNN` do the same with any other generator. -/
theorem run_withRandom (random : Random) (hcalls : NoReset calls)
    (hrun : machine.run calls = .ok (events, last)) (hidle : bytesDrawn events = 0) :
    Machine.run { machine with random := random } calls
      = .ok (events.map (Event.withRandom random), { last with random := random }) := by
  induction calls generalizing machine events with
  | nil =>
      cases hrun
      rfl
  | cons call rest ih =>
      obtain ⟨result, next, later, hanswer, hlater, rfl⟩ := run_cons_cases hrun
      by_cases hdraws : Event.Performs DrawsByte ⟨machine, call, result, next⟩
      · rw [bytesDrawn_cons_of_performs hdraws] at hidle
        contradiction
      · rw [bytesDrawn_cons_of_not hdraws] at hidle
        have hcall := answer_withRandom random (hcalls call List.mem_cons_self) hanswer hdraws
        exact run_cons hcall (ih hcalls.tail hlater hidle)

/-! ## From the start -/

/-- The seed of a machine is the start of its generator and nothing else. -/
theorem load_withSeed {program : List UInt8} {seed initialFlags : UInt64} {fresh : Machine}
    (hload : load program seed initialFlags = .ok (.ok fresh)) (other : UInt64) :
    fresh.random = { seed := seed } ∧ load program other initialFlags
      = .ok (.ok { fresh with random := { seed := other } }) := by
  rw [load, freshMemory_eq, ok_bind, loadProgram_eq] at hload ⊢
  cases hmemory : Memory.fresh.loadProgram program with
  | error fault =>
      rw [hmemory] at hload
      cases hload
  | ok memory =>
      rw [hmemory] at hload
      cases hload
      exact ⟨rfl, rfl⟩

/-- A step at `CXNN` carries it out unless it waits for a key.  The instructions `CXNN` that
are carried out take the bytes of the seed's stream one after the other, and nothing else
moves the generator on.  With another seed, the machine is the same but for its generator,
and does the same, until the first of them. -/
theorem random_bytes_in_order {program : List UInt8} {seed initialFlags : UInt64}
    {fresh : Machine} (hload : load program seed initialFlags = .ok (.ok fresh))
    (hcalls : NoReset calls) :
    ∃ events last, fresh.run calls = .ok (events, last) ∧
      last.random = (fun random => random.next.2)^[bytesDrawn events] { seed := seed } ∧
      (∀ earlier event later, events = earlier ++ event :: later →
        (event.call = .step → event.before.keys.isWaiting = false →
          ∀ word, event.before.word = .ok word → DrawsByte word → event.Performs DrawsByte) ∧
        (event.Performs DrawsByte → event.TakesByte seed (bytesDrawn earlier)) ∧
        (¬ event.Performs DrawsByte → event.after.random = event.before.random)) ∧
      ∀ other, ∃ second, load program other initialFlags = .ok (.ok second) ∧
        second = { fresh with random := { seed := other } } ∧
        ∀ earlier, earlier <+: calls → ∀ past now, fresh.run earlier = .ok (past, now) →
          bytesDrawn past = 0 → second.run earlier
            = .ok (past.map (Event.withRandom { seed := other }),
              { now with random := { seed := other } }) := by
  obtain ⟨hfresh, -⟩ := wellFormed_of_load hload
  obtain ⟨events, last, hrun, -⟩ := exists_run hfresh calls
  have hstart : fresh.random = { seed := seed } := (load_withSeed hload seed).1
  refine ⟨events, last, hrun, ?_, ?_, ?_⟩
  · rw [← hstart]
    exact random_of_run hfresh hcalls hrun
  · rintro earlier event later rfl
    obtain ⟨past, future, rfl, hpast, hanswer, -⟩ := run_split hrun
    obtain ⟨hbefore, hafter⟩ := hcalls.of_append
    refine ⟨?_, ?_, ?_⟩
    · intro hstep hfree word hword hdraws
      obtain ⟨before, call, result, after⟩ := event
      obtain rfl : call = .step := hstep
      obtain rfl : before.view.word = word := view_word hword
      obtain ⟨_, hdone, -⟩ := step_random hfree hdraws
      exact performs_of_step hfree hdraws hdone hanswer
    · intro hdraws
      apply takesByte_of_answer _ hanswer hdraws
      rw [random_of_run hfresh hbefore hpast, hstart, Random.next_iterate]
    · intro hidle
      exact random_of_answer (wellFormed_of_run hfresh hpast) (hafter _ List.mem_cons_self)
        hanswer hidle
  · intro other
    refine ⟨_, (load_withSeed hload other).2, rfl, ?_⟩
    rintro earlier ⟨rest, rfl⟩ past now hpast hidle
    exact run_withRandom _ hcalls.of_append.1 hpast hidle

/-- A program whose second instruction is `C00F`, with the seeds 7 and 8. -/
theorem random_bytes_in_order_second : ∃ (fresh second last now : Machine)
    (events past : List Event),
    load [0x60, 0x05, 0xC0, 0x0F] 7 0 = .ok (.ok fresh) ∧
      fresh.run [.step, .step] = .ok (events, last) ∧
      last.random = { seed := 7, position := 1 } ∧
      last.registers.get Register.v0 = Random.stream 7 0 &&& 0x0F ∧
      load [0x60, 0x05, 0xC0, 0x0F] 8 0 = .ok (.ok second) ∧
      fresh.run [.step] = .ok (past, now) ∧
      second.run [.step] = .ok (past.map (Event.withRandom { seed := 8 }),
        { now with random := { seed := 8 } }) := by
  have hsteps : ∃ fresh, load [0x60, 0x05, 0xC0, 0x0F] 7 0 = .ok (.ok fresh) ∧
      ∃ put now, fresh.answer .step = .ok (put, now) ∧
        ¬ Event.Performs DrawsByte ⟨fresh, .step, put, now⟩ ∧ now.word = .ok 0xC00F ∧
      ∃ drawn last, now.answer .step = .ok (drawn, last) ∧
        Event.Performs DrawsByte ⟨now, .step, drawn, last⟩ := by
    decide +kernel
  obtain ⟨fresh, hload, put, now, hput, hidle, hword, drawn, last, hdrawn, hdraws⟩ := hsteps
  have hpast : fresh.run [.step] = .ok ([⟨fresh, .step, put, now⟩], now) := run_cons hput rfl
  have hrun : fresh.run [.step, .step] = .ok (_, last) := run_cons hput (run_cons hdrawn rfl)
  have hnone : bytesDrawn [⟨fresh, .step, put, now⟩] = 0 := bytesDrawn_cons_of_not hidle []
  obtain ⟨_, _, hsame, hrandom, hevents, hother⟩ := random_bytes_in_order hload
    (show NoReset [.step, .step] by simp [NoReset])
  cases hrun.symm.trans hsame
  have htakes := (hevents [_] _ [] rfl).2.1 hdraws
  rw [hnone] at htakes
  obtain ⟨second, hsecond, -, halike⟩ := hother 8
  refine ⟨fresh, second, last, now, _, _, hload, hrun, ?_, ?_, hsecond, hpast, ?_⟩
  · rw [hrandom, bytesDrawn_cons_of_not hidle, bytesDrawn_cons_of_performs hdraws]
    rfl
  · exact htakes.register 0xC00F hword .v0 rfl
  · exact halike [.step] ⟨[.step], rfl⟩ _ now hpast hnone

end Machine

end Chip8.Raw
