import Mathlib.Data.List.Infix
import Chip8.Proofs.Machine.Stacking
import Chip8.Proofs.Raw.Failure

/-!
# Subroutines return to their callers

As long as the stack is deeper than it was before a call, the address that the call
saved stays on it, since whatever is done to the machine changes the slots in use only
at the top.  So the return that takes the stack back to the old depth finds the address
behind the call.  From the start on, the depth is the number of calls less that of
returns.
-/

namespace Chip8.Raw.Machine

variable {machine next last : Machine} {call : Machine.Call} {calls : List Machine.Call}
  {result : Except Fault Unit} {frames : List Address}

/-- The return addresses, the most recent one first. -/
def saved (machine : Machine) : List Address :=
  machine.view.stack.toList

theorem WellFormed.length_saved (hmachine : machine.WellFormed) :
    machine.saved.length = machine.stack.pointer := by
  rw [saved, CallStack.length_toList]
  exact Nat.min_eq_left hmachine.stack.pointer_le

/-- What is done is a step that succeeds and does not only wait for a key. -/
def CarriesOut (machine : Machine) (call : Machine.Call) (result : Except Fault Unit) : Prop :=
  call = .step ∧ machine.keys.isWaiting = false ∧ result = .ok ()

instance (machine : Machine) (call : Machine.Call) (result : Except Fault Unit) :
    Decidable (machine.CarriesOut call result) :=
  inferInstanceAs (Decidable (_ ∧ _ ∧ _))

/-- The words of the instructions that are carried out in the course of some calls. -/
def carriedOut (machine : Machine) : List Machine.Call → Checked (List UInt16)
  | [] => return []
  | call :: rest => do
      let (result, next) ← machine.answer call
      let later ← next.carriedOut rest
      if machine.CarriesOut call result then
        return (← machine.word) :: later
      else
        return later

/-- No reset is among the calls. -/
def NoReset (calls : List Machine.Call) : Prop :=
  ∀ call ∈ calls, ∀ program seed initialFlags, call ≠ .reset program seed initialFlags

/-! ## One call -/

/-- What becomes of the return addresses: an instruction that is carried out may change
them, and nothing else does. -/
inductive Stacks (machine : Machine) (call : Machine.Call) (result : Except Fault Unit)
    (next : Machine) : Prop where
  | carriedOut (hcarries : machine.CarriesOut call result)
      (hstacking : machine.view.Stacking machine.view.word next.view)
  | idle (hidle : ¬ machine.CarriesOut call result) (hsaved : next.saved = machine.saved)

theorem stacks_step (hmachine : machine.WellFormed) :
    ∃ result next, machine.step = .ok (result, next) ∧ next.WellFormed ∧
      machine.Stacks .step result next := by
  rcases answer_cases hmachine .step with ⟨next, hstep, hnext, htyped⟩ | ⟨fault, hstep, -⟩
  · have htyped : machine.view.step = .ok next.view := htyped
    refine ⟨.ok (), next, hstep, hnext, ?_⟩
    cases hwaiting : machine.keys.isWaiting with
    | false =>
        refine .carriedOut ⟨rfl, hwaiting, rfl⟩ ?_
        exact Chip8.Machine.stacking_of_step (machine.isWaiting_view.trans hwaiting) htyped
    | true =>
        refine .idle (by simp [CarriesOut, hwaiting]) ?_
        rw [Chip8.Machine.step, if_pos (machine.isWaiting_view.trans hwaiting)] at htyped
        exact congrArg (fun typed => typed.stack.toList) (Except.ok.inj htyped).symm
  · refine ⟨.error fault, machine, hstep, hmachine, .idle ?_ rfl⟩
    rintro ⟨-, -, hresult⟩
    cases hresult

theorem stacks_answer (hmachine : machine.WellFormed)
    (hreset : ∀ program seed initialFlags, call ≠ .reset program seed initialFlags) :
    ∃ result next, machine.answer call = .ok (result, next) ∧ next.WellFormed ∧
      machine.Stacks call result next := by
  by_cases hstep : call = .step
  · subst hstep
    exact stacks_step hmachine
  · have hidle : ∀ result, ¬ machine.CarriesOut call result :=
      fun result hcarries => hstep hcarries.1
    rcases answer_cases hmachine call with ⟨next, hanswer, hnext, htyped⟩ | ⟨fault, hanswer, -⟩
    · refine ⟨.ok (), next, hanswer, hnext, .idle (hidle _) ?_⟩
      exact congrArg CallStack.toList (Chip8.Machine.stack_of_answer hstep hreset htyped)
    · exact ⟨.error fault, machine, hanswer, hmachine, .idle (hidle _) rfl⟩

theorem stacks_of_answer (hmachine : machine.WellFormed)
    (hreset : ∀ program seed initialFlags, call ≠ .reset program seed initialFlags)
    (hanswer : machine.answer call = .ok (result, next)) :
    next.WellFormed ∧ machine.Stacks call result next := by
  obtain ⟨other, after, hother, hafter, hstacks⟩ := stacks_answer hmachine hreset
  rw [hanswer] at hother
  cases hother
  exact ⟨hafter, hstacks⟩

theorem stacking_of_step (hmachine : machine.WellFormed)
    (hwaiting : machine.keys.isWaiting = false) (hstep : machine.step = .ok (.ok (), next)) :
    next.WellFormed ∧ machine.view.Stacking machine.view.word next.view := by
  have hanswer : machine.answer .step = .ok (.ok (), next) := hstep
  obtain ⟨hnext, hstacks⟩ := stacks_of_answer hmachine (by simp) hanswer
  cases hstacks with
  | carriedOut hcarries hstacking => exact ⟨hnext, hstacking⟩
  | idle hidle hsaved => exact absurd ⟨rfl, hwaiting, rfl⟩ hidle

/-- Addresses stay at the bottom of the stack as long as it does not get lower than they
reach. -/
theorem Stacks.suffix (hstacks : machine.Stacks call result next)
    (hsuffix : frames <:+ machine.saved) (hdeep : frames.length ≤ next.saved.length) :
    frames <:+ next.saved := by
  cases hstacks with
  | idle hidle hsaved => rwa [hsaved]
  | carriedOut hcarries hstacking =>
      cases hstacking with
      | called hlead hstack =>
          have hpushed : next.saved = machine.view.counter.offset 2 :: machine.saved := hstack
          rw [hpushed]
          exact hsuffix.trans (List.suffix_cons _ _)
      | returned hword hstack =>
          have hpopped : machine.saved = next.view.counter :: next.saved := hstack
          rw [hpopped, List.suffix_cons_iff] at hsuffix
          rcases hsuffix with htop | hbelow
          · rw [htop, List.length_cons] at hdeep
            omega
          · exact hbelow
      | kept hlead hword hstack =>
          have hkept : next.saved = machine.saved := hstack
          rwa [hkept]

/-- Only a return makes the stack lower. -/
theorem Stacks.of_lower (hstacks : machine.Stacks call result next)
    (hlower : next.saved.length < machine.saved.length) :
    machine.CarriesOut call result ∧ machine.view.word = 0x00EE ∧
      machine.saved = next.view.counter :: next.saved := by
  cases hstacks with
  | idle hidle hsaved =>
      rw [hsaved] at hlower
      exact absurd hlower (Nat.lt_irrefl _)
  | carriedOut hcarries hstacking =>
      cases hstacking with
      | called hlead hstack =>
          have hpushed : next.saved.length = machine.saved.length + 1 := congrArg List.length hstack
          omega
      | returned hword hstack => exact ⟨hcarries, hword, hstack⟩
      | kept hlead hword hstack =>
          have hkept : next.saved.length = machine.saved.length := congrArg List.length hstack
          omega

/-! ## Several calls -/

theorem afterAll_cons (hanswer : machine.answer call = .ok (result, next))
    (rest : List Machine.Call) : machine.afterAll (call :: rest) = next.afterAll rest := by
  rw [afterAll, hanswer]
  rfl

theorem suffix_of_afterAll (hmachine : machine.WellFormed) (hsuffix : frames <:+ machine.saved)
    (hcalls : NoReset calls)
    (hdeep : ∀ earlier, earlier <+: calls → ∀ middle, machine.afterAll earlier = .ok middle →
      frames.length ≤ middle.stack.pointer)
    (hlast : machine.afterAll calls = .ok last) : last.WellFormed ∧ frames <:+ last.saved := by
  induction calls generalizing machine with
  | nil =>
      cases hlast
      exact ⟨hmachine, hsuffix⟩
  | cons call rest ih =>
      obtain ⟨result, next, hanswer, hnext, hstacks⟩ :=
        stacks_answer hmachine (hcalls call List.mem_cons_self)
      have hfirst : frames.length ≤ next.saved.length := by
        rw [hnext.length_saved]
        exact hdeep [call] (by simp) next (afterAll_cons hanswer [])
      refine ih hnext (hstacks.suffix hsuffix hfirst)
        (fun other hother => hcalls other (List.mem_cons_of_mem call hother)) ?_ ?_
      · intro earlier hearlier middle hmiddle
        refine hdeep (call :: earlier) ?_ middle ?_
        · exact (List.prefix_cons_inj call).mpr hearlier
        · rw [afterAll_cons hanswer]
          exact hmiddle
      · rw [← afterAll_cons hanswer]
        exact hlast

/-- The stack gets deeper with each call of a subroutine and lower with each return. -/
theorem depth_of_afterAll (hmachine : machine.WellFormed) (hcalls : NoReset calls) :
    ∃ last words, machine.afterAll calls = .ok last ∧ machine.carriedOut calls = .ok words ∧
      last.stack.pointer + words.count 0x00EE
        = machine.stack.pointer + words.countP fun word => word.toNat / 0x1000 = 0x2 := by
  induction calls generalizing machine with
  | nil => exact ⟨machine, [], rfl, rfl, rfl⟩
  | cons call rest ih =>
      obtain ⟨result, next, hanswer, hnext, hstacks⟩ :=
        stacks_answer hmachine (hcalls call List.mem_cons_self)
      obtain ⟨last, words, hlast, hwords, hdepth⟩ :=
        ih hnext fun other hother => hcalls other (List.mem_cons_of_mem call hother)
      have hbefore := hmachine.length_saved
      have hafter := hnext.length_saved
      rw [afterAll_cons hanswer, carriedOut, hanswer]
      simp only [ok_bind, hwords]
      cases hstacks with
      | idle hidle hsaved =>
          refine ⟨last, words, hlast, by rw [if_neg hidle]; rfl, ?_⟩
          rw [hdepth, ← hafter, hsaved, hbefore]
      | carriedOut hcarries hstacking =>
          refine ⟨last, machine.view.word :: words, hlast, ?_, ?_⟩
          · rw [if_pos hcarries, word_eq]
            rfl
          · have hone : next.saved.length + [machine.view.word].count 0x00EE
                = machine.saved.length
                  + [machine.view.word].countP fun word => word.toNat / 0x1000 = 0x2 :=
              hstacking.length_toList
            rw [← List.singleton_append, List.count_append, List.countP_append]
            omega

/-! ## From a call to its return -/

/-- A subroutine that the machine calls next returns to where it was called: the call saves
one address more, and whatever is done afterwards, as long as the stack stays above its old
depth a return can be carried out, and nothing takes the stack back to the old depth but a
return to the address behind the call. -/
def ReturnsToCaller (machine : Machine) : Prop :=
  ∀ word entered, machine.keys.isWaiting = false → machine.word = .ok word →
    word.toNat / 0x1000 = 0x2 → machine.step = .ok (.ok (), entered) →
    entered.stack.pointer = machine.stack.pointer + 1 ∧
    ∀ later inside, NoReset later → entered.afterAll later = .ok inside →
      (∀ earlier, earlier <+: later → ∀ middle, entered.afterAll earlier = .ok middle →
        machine.stack.pointer < middle.stack.pointer) →
      (inside.keys.isWaiting = false → inside.word = .ok 0x00EE →
        ∃ returned, inside.step = .ok (.ok (), returned) ∧
          returned.stack.pointer + 1 = inside.stack.pointer) ∧
      ∀ call result returned, NoReset [call] → inside.answer call = .ok (result, returned) →
        returned.stack.pointer ≤ machine.stack.pointer →
        inside.CarriesOut call result ∧ inside.word = .ok 0x00EE ∧
          returned.stack.pointer = machine.stack.pointer ∧
          returned.counter.toNat = (machine.counter.toNat + 2) % 4096

/-- A return succeeds if there is an address to return to, and takes it off. -/
theorem step_return (hmachine : machine.WellFormed) (hwaiting : machine.keys.isWaiting = false)
    (hword : machine.word = .ok 0x00EE) (hused : 0 < machine.stack.pointer) :
    ∃ returned, machine.step = .ok (.ok (), returned) ∧
      returned.stack.pointer + 1 = machine.stack.pointer := by
  have hview : machine.view.word = 0x00EE := view_word hword
  obtain ⟨result, returned, hstep, hfails⟩ := step_cases hmachine
  have hdone : result = .ok () := by
    cases result with
    | ok done => rfl
    | error fault =>
        obtain ⟨-, hobstacle⟩ := (hfails fault).1.mp rfl
        rw [hview] at hobstacle
        cases hobstacle with
        | illegalOpcode hdecode => exact absurd hdecode (by decide)
        | stackOverflow hlead hdepth => exact absurd hlead (by decide)
        | badReturn hreturn hdepth => omega
        | flagOverflow hlead hlow hx => exact absurd hlead (by decide)
  subst hdone
  refine ⟨returned, hstep, ?_⟩
  obtain ⟨hreturned, hstacking⟩ := stacking_of_step hmachine hwaiting hstep
  rw [hview] at hstacking
  have hpopped : machine.saved = returned.view.counter :: returned.saved := hstacking.of_return
  rw [← hmachine.length_saved, ← hreturned.length_saved, hpopped, List.length_cons]

theorem returnsToCaller (hmachine : machine.WellFormed) : machine.ReturnsToCaller := by
  intro word entered hwaiting hword hlead hstep
  have hview : machine.view.word = word := view_word hword
  obtain ⟨hentered, hstacking⟩ := stacking_of_step hmachine hwaiting hstep
  rw [hview] at hstacking
  have hsaved : entered.saved = machine.view.counter.offset 2 :: machine.saved :=
    hstacking.of_call hlead
  have hdepth : entered.stack.pointer = machine.stack.pointer + 1 := by
    rw [← hentered.length_saved, hsaved, List.length_cons, hmachine.length_saved]
  refine ⟨hdepth, ?_⟩
  intro later inside hlater hinside habove
  -- the address behind the call and those below it stay where they are
  have hsuffix : entered.saved <:+ entered.saved := List.suffix_rfl
  obtain ⟨hwell, hframes⟩ := suffix_of_afterAll hentered hsuffix hlater (by
    intro earlier hearlier middle hmiddle
    rw [hentered.length_saved, hdepth]
    exact habove earlier hearlier middle hmiddle) hinside
  have hdeep : machine.stack.pointer < inside.stack.pointer :=
    habove later List.prefix_rfl inside hinside
  refine ⟨?_, ?_⟩
  · intro hfree hreturn
    exact step_return hwell hfree hreturn (Nat.zero_lt_of_lt hdeep)
  · intro call result returned hcall hanswer hlow
    obtain ⟨hreturned, hstacks⟩ := stacks_of_answer hwell (hcall call List.mem_cons_self) hanswer
    have hinner := hwell.length_saved
    have houter := hreturned.length_saved
    obtain ⟨hcarries, hreturn, hpopped⟩ := hstacks.of_lower (by omega)
    have hlength : inside.saved.length = returned.saved.length + 1 := congrArg List.length hpopped
    have hlowest : returned.stack.pointer = machine.stack.pointer := by omega
    -- what is left of the stack above the old depth is one address
    have hsame : entered.saved = inside.saved := hframes.eq_of_length (by
      rw [hentered.length_saved, hdepth, hlength, houter, hlowest])
    rw [hsaved, hpopped] at hsame
    have hcounter : machine.view.counter.offset 2 = returned.view.counter :=
      (List.cons.inj hsame).1
    refine ⟨hcarries, ?_, hlowest, ?_⟩
    · rw [word_eq, hreturn]
    · have hplace : (machine.counter.toNat % 4096 + 2) % 4096
          = returned.counter.toNat % 4096 := congrArg Fin.val hcounter
      have hlt := hreturned.counter_lt
      omega

/-- The machine starts without return addresses. -/
theorem pointer_of_load {program : List UInt8} {seed initialFlags : UInt64} {fresh : Machine}
    (hload : load program seed initialFlags = .ok (.ok fresh)) : fresh.stack.pointer = 0 := by
  obtain ⟨hfresh, htyped⟩ := wellFormed_of_load hload
  have hsaved : fresh.saved = [] := by
    rw [saved, Chip8.Machine.stack_of_load htyped]
    exact CallStack.toList_empty _
  rw [← hfresh.length_saved, hsaved, List.length_nil]

/-- Every subroutine that a machine calls returns to its caller, whatever happens until
then.  Unless the machine is reset, as many return addresses are saved as it has called
subroutines without having returned from them. -/
theorem calls_return_to_caller {program : List UInt8} {seed initialFlags : UInt64}
    {fresh : Machine} (hload : load program seed initialFlags = .ok (.ok fresh))
    (calls : List Machine.Call) :
    ∃ machine, fresh.afterAll calls = .ok machine ∧ machine.ReturnsToCaller ∧
      (NoReset calls → ∃ words, fresh.carriedOut calls = .ok words ∧
        machine.stack.pointer + words.count 0x00EE
          = words.countP fun word => word.toNat / 0x1000 = 0x2) := by
  obtain ⟨hfresh, _⟩ := wellFormed_of_load hload
  obtain ⟨machine, hmachine, hwell, _⟩ := afterAll_eq hfresh calls
  refine ⟨machine, hmachine, returnsToCaller hwell, ?_⟩
  intro hcalls
  obtain ⟨last, words, hlast, hwords, hdepth⟩ := depth_of_afterAll hfresh hcalls
  rw [hmachine] at hlast
  cases hlast
  rw [pointer_of_load hload, Nat.zero_add] at hdepth
  exact ⟨words, hwords, hdepth⟩

/-- A subroutine that calls another one, which waits for a key before it returns. -/
theorem calls_return_to_caller_nested : ∃ fresh entered inside returned : Machine,
    load [0x22, 0x06, 0x12, 0x02, 0x00, 0x00, 0x22, 0x0A, 0x00, 0xEE, 0xF0, 0x0A, 0x00, 0xEE] 0 0
        = .ok (.ok fresh) ∧
      fresh.step = .ok (.ok (), entered) ∧
      entered.afterAll [.step, .step, .tick, .step, .setKeys 1, .step] = .ok inside ∧
      inside.step = .ok (.ok (), returned) ∧ returned.counter.toNat = 0x202 := by
  have hruns : ∃ fresh,
      load [0x22, 0x06, 0x12, 0x02, 0x00, 0x00, 0x22, 0x0A, 0x00, 0xEE, 0xF0, 0x0A, 0x00, 0xEE] 0 0
        = .ok (.ok fresh) ∧
        fresh.keys.isWaiting = false ∧ fresh.word = .ok 0x2206 ∧ fresh.counter.toNat = 0x200 ∧
      ∃ called entered, fresh.step = .ok (called, entered) ∧ called = .ok () ∧
        (∀ earlier ∈ [.step, .step, .tick, .step, .setKeys 1, .step].inits,
          ∃ middle, entered.afterAll earlier = .ok middle ∧
            fresh.stack.pointer < middle.stack.pointer) ∧
      ∃ inside, entered.afterAll [.step, .step, .tick, .step, .setKeys 1, .step] = .ok inside ∧
        inside.keys.isWaiting = false ∧ inside.word = .ok 0x00EE ∧
        inside.stack.pointer = fresh.stack.pointer + 1 := by
    decide +kernel
  obtain ⟨fresh, hload, hfree, hword, hplace, _, entered, hcall, rfl, hinits, inside, hinside,
    hready, hreturn, hdepth⟩ := hruns
  have habove : ∀ earlier, earlier <+: [.step, .step, .tick, .step, .setKeys 1, .step] →
      ∀ middle, entered.afterAll earlier = .ok middle →
        fresh.stack.pointer < middle.stack.pointer := by
    intro earlier hearlier middle hmiddle
    obtain ⟨other, hother, hdeep⟩ := hinits earlier ((List.mem_inits _ _).mpr hearlier)
    cases hmiddle.symm.trans hother
    exact hdeep
  obtain ⟨machine, hmachine, hreturns, -⟩ := calls_return_to_caller hload []
  cases hmachine
  obtain ⟨-, hlater⟩ := hreturns 0x2206 entered hfree hword (by decide) hcall
  obtain ⟨hpossible, hlands⟩ := hlater _ inside (by simp [NoReset]) hinside habove
  obtain ⟨returned, hback, hlower⟩ := hpossible hready hreturn
  obtain ⟨-, -, -, hnext⟩ := hlands .step (.ok ()) returned (by simp [NoReset]) hback (by omega)
  refine ⟨fresh, entered, inside, returned, hload, hcall, hinside, hback, ?_⟩
  rw [hnext, hplace]

end Chip8.Raw.Machine
