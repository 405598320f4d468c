import Chip8.Proofs.Raw.Safety

/-!
# Steps that fail

A step fails for one of four reasons, all of which can be read off the word at
the counter and the depth of the stack.  It then leaves the machine as it was.
Nothing but another reset changes the word, the counter or the stack of a machine
whose step fails, so from then on every step fails in the same way.
-/

namespace Chip8.Raw.Machine

/-! ## Reasons -/

/-- Why the instruction at a word cannot be carried out with so many return
addresses saved. -/
inductive Obstacle (word : UInt16) (depth : Nat) : Fault → Prop where
  /-- The word stands for nothing. -/
  | illegalOpcode (hdecode : decode word = none) : Obstacle word depth .illegalOpcode
  /-- `2NNN` without a free slot. -/
  | stackOverflow (hlead : word.toNat / 0x1000 = 0x2) (hdepth : depth = 16) :
      Obstacle word depth .stackOverflow
  /-- `00EE` without a return address. -/
  | badReturn (hword : word = 0x00EE) (hdepth : depth = 0) : Obstacle word depth .badReturn
  /-- `FX75` or `FX85` with more registers than there are flags. -/
  | flagOverflow (hlead : word.toNat / 0x1000 = 0xF)
      (hlow : word.toNat % 0x100 = 0x75 ∨ word.toNat % 0x100 = 0x85)
      (hx : 7 < word.toNat / 0x100 % 0x10) : Obstacle word depth .flagOverflow

variable {machine : Machine} {typed : Chip8.Machine} {fault : Fault}

/-! ## Instructions that fail -/

theorem execute_returnToCaller_error :
    typed.execute .returnToCaller = .error fault ↔
      fault = .badReturn ∧ typed.stack.depth = 0 := by
  calc typed.execute .returnToCaller = .error fault
      ↔ typed.stack.pop = .error fault := by
        rw [Chip8.Machine.execute]
        cases typed.stack.pop with
        | error other => simp
        | ok popped => simp
    _ ↔ fault = .badReturn ∧ typed.stack.depth = 0 := CallStack.pop_error_iff

theorem execute_call_error (target : Address) :
    typed.execute (.call target) = .error fault ↔
      fault = .stackOverflow ∧ typed.stack.depth = 16 := by
  calc typed.execute (.call target) = .error fault
      ↔ typed.stack.push (typed.counter.offset 2) = .error fault := by
        rw [Chip8.Machine.execute]
        cases typed.stack.push (typed.counter.offset 2) with
        | error other => simp
        | ok pushed => simp
    _ ↔ fault = .stackOverflow ∧ typed.stack.depth = 16 := CallStack.push_error_iff

theorem execute_saveFlags_error (x : Register) :
    typed.execute (.saveFlags x) = .error fault ↔ fault = .flagOverflow ∧ 7 < x.val := by
  calc typed.execute (.saveFlags x) = .error fault
      ↔ typed.flags.save (typed.registersUpTo x) = .error fault := by
        rw [Chip8.Machine.execute]
        cases typed.flags.save (typed.registersUpTo x) with
        | error other => simp
        | ok saved => simp
    _ ↔ fault = .flagOverflow ∧ 8 < (typed.registersUpTo x).length :=
        FlagRegisters.save_error_iff
    _ ↔ fault = .flagOverflow ∧ 7 < x.val := by
        rw [Chip8.Machine.length_registersUpTo, Nat.succ_lt_succ_iff]

theorem execute_restoreFlags_error (x : Register) :
    typed.execute (.restoreFlags x) = .error fault ↔ fault = .flagOverflow ∧ 7 < x.val := by
  calc typed.execute (.restoreFlags x) = .error fault
      ↔ typed.flags.restore (x.val + 1) = .error fault := by
        rw [Chip8.Machine.execute]
        cases typed.flags.restore (x.val + 1) with
        | error other => simp
        | ok values => simp
    _ ↔ fault = .flagOverflow ∧ 8 < x.val + 1 := FlagRegisters.restore_error_iff
    _ ↔ fault = .flagOverflow ∧ 7 < x.val := by rw [Nat.succ_lt_succ_iff]

/-- An instruction fails only for want of a slot, of a return address or of a
flag. -/
theorem obstacle_of_execute {word : UInt16} {instruction : Chip8.Instruction}
    (hword : instruction.encodeNat = word.toNat)
    (hexecute : typed.execute instruction = .error fault) :
    Obstacle word typed.stack.depth fault := by
  cases instruction
  case returnToCaller =>
    obtain ⟨rfl, hdepth⟩ := execute_returnToCaller_error.mp hexecute
    exact .badReturn (UInt16.toNat_inj.mp hword.symm) hdepth
  case call target =>
    obtain ⟨rfl, hdepth⟩ := (execute_call_error target).mp hexecute
    refine .stackOverflow ?_ hdepth
    rw [← hword]
    exact Instruction.addressWord_lead 0x2 target
  case saveFlags x =>
    obtain ⟨rfl, hx⟩ := (execute_saveFlags_error x).mp hexecute
    refine .flagOverflow ?_ (.inl ?_) ?_
    all_goals rw [← hword]
    · exact Instruction.byteWord_lead 0xF x (by decide)
    · exact Instruction.byteWord_low 0xF x (by decide)
    · exact hx.trans_eq (Instruction.byteWord_x 0xF x (by decide)).symm
  case restoreFlags x =>
    obtain ⟨rfl, hx⟩ := (execute_restoreFlags_error x).mp hexecute
    refine .flagOverflow ?_ (.inr ?_) ?_
    all_goals rw [← hword]
    · exact Instruction.byteWord_lead 0xF x (by decide)
    · exact Instruction.byteWord_low 0xF x (by decide)
    · exact hx.trans_eq (Instruction.byteWord_x 0xF x (by decide)).symm
  -- no other instruction can fail
  all_goals simp [Chip8.Machine.execute] at hexecute

/-! ## Steps that fail -/

/-- A step that fails has an obstacle in its way. -/
theorem obstacle_of_step (hwaiting : typed.isWaiting = false) (hfails : typed.step = .error fault) :
    Obstacle typed.word typed.stack.depth fault := by
  simp only [Chip8.Machine.step, hwaiting, Bool.false_eq_true, if_false] at hfails
  cases hdecode : Instruction.decode? typed.word with
  | none =>
      rw [hdecode] at hfails
      cases hfails
      refine .illegalOpcode ?_
      rw [decode_eq, hdecode]
      rfl
  | some instruction =>
      rw [hdecode] at hfails
      exact obstacle_of_execute (Instruction.encodeNat_of_decode? hdecode) hfails

/-- A step with an obstacle in its way fails. -/
theorem Obstacle.step_error (hwaiting : typed.isWaiting = false)
    (hobstacle : Obstacle typed.word typed.stack.depth fault) : typed.step = .error fault := by
  simp only [Chip8.Machine.step, hwaiting, Bool.false_eq_true, if_false]
  -- the digits that the obstacle tells determine the instruction
  cases hobstacle with
  | illegalOpcode hdecode =>
      rw [decode_eq, Option.map_eq_none_iff] at hdecode
      rw [hdecode]
  | stackOverflow hlead hdepth =>
      rw [Instruction.decode?_call hlead]
      exact (execute_call_error _).mpr ⟨rfl, hdepth⟩
  | badReturn hword hdepth =>
      rw [hword, Instruction.decode?_return]
      exact execute_returnToCaller_error.mpr ⟨rfl, hdepth⟩
  | flagOverflow hlead hlow hx =>
      rw [Instruction.decode?_transfer hlead]
      rcases hlow with hlow | hlow
      · rw [hlow]
        exact (execute_saveFlags_error _).mpr ⟨rfl, hx⟩
      · rw [hlow]
        exact (execute_restoreFlags_error _).mpr ⟨rfl, hx⟩

/-- A step fails if the machine does not wait for a key and something stands in
the way of its instruction, and for no other reason. -/
theorem step_error_iff : typed.step = .error fault ↔
    typed.isWaiting = false ∧ Obstacle typed.word typed.stack.depth fault := by
  constructor
  · intro hfails
    have hwaiting : typed.isWaiting = false := by
      by_contra hheld
      rw [Chip8.Machine.step, if_pos (Bool.of_not_eq_false hheld)] at hfails
      cases hfails
    exact ⟨hwaiting, obstacle_of_step hwaiting hfails⟩
  · rintro ⟨hwaiting, hobstacle⟩
    exact hobstacle.step_error hwaiting

/-- A step of a stored machine fails for the same reasons, and the machine is then
what it was. -/
theorem step_cases (hmachine : machine.WellFormed) : ∃ result next,
    machine.step = .ok (result, next) ∧
      ∀ fault, (result = .error fault ↔ machine.keys.isWaiting = false ∧
          Obstacle machine.view.word machine.stack.pointer fault) ∧
        (result = .error fault → next = machine) := by
  have hdepth : machine.view.stack.depth = machine.stack.pointer :=
    Nat.min_eq_left hmachine.stack.pointer_le
  have hfails : ∀ fault, machine.view.step = .error fault ↔ machine.keys.isWaiting = false ∧
      Obstacle machine.view.word machine.stack.pointer fault := by
    intro fault
    rw [step_error_iff, isWaiting_view, hdepth]
  rcases answer_cases hmachine .step with ⟨next, hstep, -, htyped⟩ | ⟨other, hstep, htyped⟩
  · have htyped : machine.view.step = .ok next.view := htyped
    refine ⟨.ok (), next, hstep, ?_⟩
    intro fault
    rw [← hfails, htyped]
    exact ⟨by simp, by simp⟩
  · have htyped : machine.view.step = .error other := htyped
    refine ⟨.error other, machine, hstep, ?_⟩
    intro fault
    rw [← hfails, htyped]
    exact ⟨by simp, fun _ => rfl⟩

/-- What stands in the way of a step makes it fail. -/
theorem step_of_obstacle (hmachine : machine.WellFormed) (hwaiting : machine.keys.isWaiting = false)
    (hobstacle : Obstacle machine.view.word machine.stack.pointer fault) :
    machine.step = .ok (.error fault, machine) := by
  obtain ⟨result, next, hstep, hfails⟩ := step_cases hmachine
  obtain ⟨hiff, hsame⟩ := hfails fault
  have hresult := hiff.mpr ⟨hwaiting, hobstacle⟩
  rw [hstep, hresult, hsame hresult]

/-! ## Steps that go on failing -/

/-- What decides whether a step fails is as in an earlier machine, in which no
wait was pending. -/
structure SameObstacle (machine later : Machine) : Prop where
  wellFormed : later.WellFormed
  memory : later.memory = machine.memory
  counter : later.counter = machine.counter
  pointer : later.stack.pointer = machine.stack.pointer
  waiting : later.keys.waiting = none

theorem SameObstacle.word {later : Machine} (hsame : SameObstacle machine later) :
    later.view.word = machine.view.word := by
  simp only [Chip8.Machine.word, view, hsame.memory, hsame.counter]

theorem SameObstacle.step_fails {later : Machine} (hsame : SameObstacle machine later)
    (hobstacle : Obstacle machine.view.word machine.stack.pointer fault) :
    later.step = .ok (.error fault, later) := by
  apply step_of_obstacle hsame.wellFormed
  · rw [KeyLatch.isWaiting, hsame.waiting]
    rfl
  · rw [hsame.word, hsame.pointer]
    exact hobstacle

/-- Changes elsewhere leave it alone. -/
theorem SameObstacle.of_same {later next : Machine} (hsame : SameObstacle machine later)
    (hmemory : next.memory = later.memory) (hcounter : next.counter = later.counter)
    (hindex : next.index = later.index) (hstack : next.stack = later.stack)
    (hkeys : next.keys = later.keys) : SameObstacle machine next where
  wellFormed := hsame.wellFormed.of_same hcounter hindex hstack hkeys
  memory := hmemory.trans hsame.memory
  counter := hcounter.trans hsame.counter
  pointer := (congrArg CallStack.pointer hstack).trans hsame.pointer
  waiting := (congrArg KeyLatch.waiting hkeys).trans hsame.waiting

/-- Whoever does not reset the machine leaves alone what makes its step fail. -/
theorem SameObstacle.answer {later : Machine} (hsame : SameObstacle machine later)
    (hobstacle : Obstacle machine.view.word machine.stack.pointer fault) {call : Machine.Call}
    (hcall : ∀ program seed initialFlags, call ≠ .reset program seed initialFlags) :
    ∃ result next, later.answer call = .ok (result, next) ∧ SameObstacle machine next := by
  cases call with
  | step => exact ⟨_, _, hsame.step_fails hobstacle, hsame⟩
  | setKeys mask =>
      have hmask : replaceMask later.keys mask = (none, { later.keys with mask := mask }) := by
        simp only [replaceMask, hsame.waiting]
      have hkeys : WellFormed { later with keys := { later.keys with mask := mask } } :=
        hsame.wellFormed.withKeys hsame.wellFormed.waiting_lt
      refine ⟨.ok (), { later with keys := { later.keys with mask := mask } }, ?_,
        hkeys, hsame.memory, hsame.counter, hsame.pointer, hsame.waiting⟩
      rw [Machine.answer, setKeys, hmask]
      rfl
  | tick => exact ⟨_, _, rfl, hsame.of_same rfl rfl rfl rfl rfl⟩
  | acknowledgeScreen => exact ⟨_, _, rfl, hsame.of_same rfl rfl rfl rfl rfl⟩
  | acknowledgeFlags => exact ⟨_, _, rfl, hsame.of_same rfl rfl rfl rfl rfl⟩
  | resetDrawnBytes => exact ⟨_, _, rfl, hsame.of_same rfl rfl rfl rfl rfl⟩
  | reset program seed initialFlags => exact absurd rfl (hcall program seed initialFlags)

theorem SameObstacle.afterAll {later : Machine} (hsame : SameObstacle machine later)
    (hobstacle : Obstacle machine.view.word machine.stack.pointer fault) {calls : List Machine.Call}
    (hcalls : ∀ call ∈ calls, ∀ program seed initialFlags,
      call ≠ .reset program seed initialFlags) :
    ∃ last, later.afterAll calls = .ok last ∧ SameObstacle machine last := by
  induction calls generalizing later with
  | nil => exact ⟨later, rfl, hsame⟩
  | cons call rest ih =>
      obtain ⟨result, next, hanswer, hnext⟩ :=
        hsame.answer hobstacle (hcalls call List.mem_cons_self)
      obtain ⟨last, hlast, hsameLast⟩ :=
        ih hnext fun other hother => hcalls other (List.mem_cons_of_mem call hother)
      refine ⟨last, ?_, hsameLast⟩
      rw [Machine.afterAll, hanswer]
      exact hlast

/-- A step of a machine that some calls lead to fails if the machine does not
wait for a key and there is an obstacle.  The whole machine then stays as it was,
and unless it is reset, all further steps fail with the same fault, counter and
word. -/
theorem step_fails_for_good (hreachable : machine.Reachable) :
    ∃ result next word, machine.step = .ok (result, next) ∧ machine.word = .ok word ∧
      result ≠ .error .programTooLong ∧
      ∀ fault, (result = .error fault ↔
          machine.keys.isWaiting = false ∧ Obstacle word machine.stack.pointer fault) ∧
        (result = .error fault → next = machine ∧
          ∀ calls : List Machine.Call,
            (∀ call ∈ calls, ∀ program seed initialFlags,
              call ≠ .reset program seed initialFlags) →
            ∃ later, next.afterAll calls = .ok later ∧
              later.step = .ok (.error fault, later) ∧
              later.counter = machine.counter ∧ later.word = .ok word) := by
  have hmachine := hreachable.wellFormed
  obtain ⟨result, next, hstep, hfails⟩ := step_cases hmachine
  refine ⟨result, next, machine.view.word, hstep, word_eq machine, ?_, ?_⟩
  · intro hlong
    obtain ⟨_, hobstacle⟩ := (hfails .programTooLong).1.mp hlong
    cases hobstacle
  · intro fault
    obtain ⟨hiff, hsame⟩ := hfails fault
    refine ⟨hiff, ?_⟩
    intro hresult
    obtain ⟨hwaiting, hobstacle⟩ := hiff.mp hresult
    refine ⟨hsame hresult, ?_⟩
    intro calls hcalls
    have hnone : machine.keys.waiting = none := by simpa [KeyLatch.isWaiting] using hwaiting
    -- the machine itself is the first of those that its step fails on in this way
    obtain ⟨later, hlater, hlast⟩ :=
      SameObstacle.afterAll ⟨hmachine, rfl, rfl, rfl, hnone⟩ hobstacle hcalls
    refine ⟨later, ?_, hlast.step_fails hobstacle, hlast.counter, ?_⟩
    · rw [hsame hresult]
      exact hlater
    · rw [word_eq, hlast.word]

/-- The machine of a program that returns at once fails its first step, and all
others. -/
theorem step_fails_for_good_return : ∃ machine : Machine, machine.Reachable ∧
    machine.step = .ok (.error .badReturn, machine) ∧
    ∀ calls : List Machine.Call,
      (∀ call ∈ calls, ∀ program seed initialFlags,
        call ≠ .reset program seed initialFlags) →
      ∃ later, machine.afterAll calls = .ok later ∧
        later.step = .ok (.error .badReturn, later) ∧
        later.counter = machine.counter ∧ later.word = .ok 0x00EE := by
  have hstart : ∃ fresh, load [0x00, 0xEE] 0 0 = .ok (.ok fresh) ∧
      fresh.word = .ok 0x00EE ∧ fresh.keys.isWaiting = false ∧ fresh.stack.pointer = 0 := by
    decide +kernel
  obtain ⟨fresh, hload, hword, hwaiting, hdepth⟩ := hstart
  have hreachable : fresh.Reachable := ⟨[0x00, 0xEE], 0, 0, [], fresh, hload, rfl⟩
  obtain ⟨result, next, word, hstep, hsame, _, hfault⟩ := step_fails_for_good hreachable
  rw [hword] at hsame
  cases hsame
  obtain ⟨hiff, hgood⟩ := hfault .badReturn
  have hresult := hiff.mpr ⟨hwaiting, .badReturn rfl hdepth⟩
  obtain ⟨hnext, hcalls⟩ := hgood hresult
  subst hnext hresult
  exact ⟨next, hreachable, hstep, hcalls⟩

end Chip8.Raw.Machine
