import Chip8.Proofs.Raw.Adjustments

/-!
# What the timers show

A timer goes down by one with every tick and stops at zero, so it shows what it was last set
to, less the number of ticks since then.  Only `FX15` sets the delay timer and only `FX18`
the sound timer: whatever else is done to the machine, ticks aside, leaves both alone.  The
ticks go on counting while the machine waits for a key and when its steps fail.
-/

namespace Chip8

/-- One of the two timers. -/
inductive Timer where
  | delay
  | sound
  deriving DecidableEq

namespace Timer

variable {timer other : Timer} {timers : Timers}

/-- What a timer shows. -/
def value : Timer → Timers → UInt8
  | .delay, timers => timers.delay
  | .sound, timers => timers.sound

/-- The timers with one of them set. -/
def set : Timer → Timers → UInt8 → Timers
  | .delay, timers, shown => { timers with delay := shown }
  | .sound, timers, shown => { timers with sound := shown }

/-- The instruction that sets a timer. -/
def setter : Timer → Register → Instruction
  | .delay, x => .setDelay x
  | .sound, x => .setSound x

/-- The last byte of the word of that instruction. -/
def setterByte : Timer → Nat
  | .delay => 0x15
  | .sound => 0x18

/-- `FX15` for the delay timer and `FX18` for the sound timer. -/
def SetBy (timer : Timer) (word : UInt16) : Prop :=
  word.toNat / 0x1000 = 0xF ∧ word.toNat % 0x100 = timer.setterByte

instance : DecidablePred timer.SetBy :=
  fun _ => inferInstanceAs (Decidable (_ ∧ _))

theorem SetBy.decode?_eq {word : UInt16} (hset : timer.SetBy word) :
    Instruction.decode? word = some (timer.setter (lastDigit (word.toNat / 0x100))) := by
  obtain ⟨hlead, hbyte⟩ := hset
  rw [Instruction.decode?_transfer hlead, hbyte]
  cases timer with
  | delay => rfl
  | sound => rfl

@[simp] theorem value_set (timer : Timer) (timers : Timers) (shown : UInt8) :
    timer.value (timer.set timers shown) = shown := by
  cases timer with
  | delay => rfl
  | sound => rfl

/-- The timers do not depend on each other. -/
theorem value_set_of_ne (hne : timer ≠ other) (timers : Timers) (shown : UInt8) :
    timer.value (other.set timers shown) = timer.value timers := by
  cases timer with
  | delay =>
      cases other with
      | delay => exact absurd rfl hne
      | sound => rfl
  | sound =>
      cases other with
      | delay => rfl
      | sound => exact absurd rfl hne

theorem toNat_value_tick (timer : Timer) (timers : Timers) :
    (timer.value timers.tick).toNat = (timer.value timers).toNat - 1 := by
  cases timer with
  | delay => exact Timers.toNat_countDown timers.delay
  | sound => exact Timers.toNat_countDown timers.sound

end Timer

theorem Machine.timers_of_load {program : List UInt8} {seed initialFlags : UInt64}
    {machine : Machine} (hload : load program seed initialFlags = .ok machine) :
    machine.timers = {} := by
  obtain ⟨memory, rfl⟩ := eq_of_load hload
  rfl

namespace Raw

/-- `FX07`. -/
def ReadsDelay (word : UInt16) : Prop :=
  word.toNat / 0x1000 = 0xF ∧ word.toNat % 0x100 = 0x07

/-- The instructions that use the timers set one of them or read the delay timer. -/
theorem usesTimers_iff {word : UInt16} :
    UsesTimers word ↔ ReadsDelay word ∨ ∃ timer : Timer, timer.SetBy word := by
  constructor
  · rintro ⟨hlead, hreads | hdelay | hsound⟩
    · exact .inl ⟨hlead, hreads⟩
    · exact .inr ⟨.delay, hlead, hdelay⟩
    · exact .inr ⟨.sound, hlead, hsound⟩
  · rintro (⟨hlead, hreads⟩ | ⟨timer, hlead, hset⟩)
    · exact ⟨hlead, .inl hreads⟩
    · cases timer with
      | delay => exact ⟨hlead, .inr (.inl hset)⟩
      | sound => exact ⟨hlead, .inr (.inr hset)⟩

/-- How many of some events are ticks. -/
def ticks (events : List Event) : Nat :=
  events.countP fun event => event.call = .tick

theorem ticks_cons_of_tick {event : Event} (htick : event.call = .tick) (later : List Event) :
    ticks (event :: later) = ticks later + 1 :=
  List.countP_cons_of_pos (decide_eq_true htick)

theorem ticks_cons_of_not {event : Event} (htick : ¬ event.call = .tick) (later : List Event) :
    ticks (event :: later) = ticks later :=
  List.countP_cons_of_neg fun hcall => htick (of_decide_eq_true hcall)

/-- What an event does to a timer. -/
structure Event.MovesTimer (timer : Timer) (event : Event) : Prop where
  /-- The instruction that sets the timer always succeeds. -/
  set : event.call = .step → event.before.keys.isWaiting = false →
    ∀ word, event.before.word = .ok word → timer.SetBy word → ∀ x : Register,
      x.val = word.toNat / 0x100 % 0x10 →
      event.result = .ok () ∧
        timer.value event.after.timers = event.before.registers.get x
  tick : event.call = .tick →
    (timer.value event.after.timers).toNat = (timer.value event.before.timers).toNat - 1
  kept : event.call ≠ .tick → ¬ event.Performs timer.SetBy →
    timer.value event.after.timers = timer.value event.before.timers

/-- A step at `FX07` always puts the delay timer into VX, and changes no other register. -/
def Event.ShowsDelay (event : Event) : Prop :=
  event.call = .step → event.before.keys.isWaiting = false →
    ∀ word, event.before.word = .ok word → ReadsDelay word → ∀ x : Register,
      x.val = word.toNat / 0x100 % 0x10 →
      event.result = .ok () ∧ event.after.registers.get x = event.before.timers.delay ∧
        ∀ y, y ≠ x → event.after.registers.get y = event.before.registers.get y

/-- After some events, a timer shows the value of the VX from which it was last set, less
the ticks since then, or zero if it was never set. -/
structure ShowsRest (timer : Timer) (events : List Event) (machine : Machine) : Prop where
  set : ∀ earlier event later, events = earlier ++ event :: later →
    event.Performs timer.SetBy → (∀ other ∈ later, ¬ other.Performs timer.SetBy) →
    ∀ word, event.before.word = .ok word → ∀ x : Register, x.val = word.toNat / 0x100 % 0x10 →
      (timer.value machine.timers).toNat = (event.before.registers.get x).toNat - ticks later
  unset : (∀ event ∈ events, ¬ event.Performs timer.SetBy) → timer.value machine.timers = 0

namespace Machine

variable {machine next last : Machine} {call : Machine.Call} {calls : List Machine.Call}
  {result : Except Fault Unit} {events : List Event} {timer : Timer}

/-! ## One step -/

theorem execute_setter (timer : Timer) (x : Register) :
    machine.execute (stored (timer.setter x)) = .ok (.ok .next,
      { machine with timers := timer.set machine.timers (machine.registers.get x) }) := by
  cases timer with
  | delay =>
      simp only [Timer.setter, stored, InstructionForm.map, execute, register_ofNat, ok_bind,
        pure_eq_ok]
      rfl
  | sound =>
      simp only [Timer.setter, stored, InstructionForm.map, execute, register_ofNat, ok_bind,
        pure_eq_ok]
      rfl

theorem step_setTimer (hfree : machine.keys.isWaiting = false)
    (hset : timer.SetBy machine.view.word) :
    ∃ next, machine.step = .ok (.ok (), next) ∧ next.timers = timer.set machine.timers
      (machine.registers.get (lastDigit (machine.view.word.toNat / 0x100))) :=
  ⟨_, step_of_execute hfree hset.decode?_eq (execute_setter timer _), rfl⟩

theorem step_readDelay (hfree : machine.keys.isWaiting = false)
    (hreads : ReadsDelay machine.view.word) :
    ∃ next, machine.step = .ok (.ok (), next) ∧ next.timers = machine.timers ∧
      next.registers.get (lastDigit (machine.view.word.toNat / 0x100)) = machine.timers.delay ∧
      ∀ y, y ≠ lastDigit (machine.view.word.toNat / 0x100) →
        next.registers.get y = machine.registers.get y := by
  have hdecode := Instruction.decode?_transfer hreads.1
  have hexecute (x : Register) : machine.execute (stored (.readDelay x))
      = .ok (.ok .next, machine.withRegister x machine.timers.delay) := by
    simp only [stored, InstructionForm.map, execute, setRegister_eq, lastDigit_ofNat, ok_bind,
      pure_eq_ok]
  rw [hreads.2] at hdecode
  have hregister (y : Register) :=
    machine.view.register_setRegister (lastDigit (machine.view.word.toNat / 0x100)) y
      machine.timers.delay
  refine ⟨_, step_of_execute hfree hdecode (hexecute _), rfl, ?_, ?_⟩
  · exact (hregister _).trans (if_pos rfl)
  · intro y hy
    exact (hregister y).trans (if_neg hy.symm)

/-! ## One call -/

/-- A step keeps a timer that it does not set. -/
theorem timer_of_step (hstep : machine.step = .ok (result, next))
    (hidle : ¬ Event.Performs timer.SetBy ⟨machine, .step, result, next⟩) :
    timer.value next.timers = timer.value machine.timers := by
  by_cases huses : machine.keys.isWaiting = false ∧ UsesTimers machine.view.word
  · obtain ⟨hfree, huses⟩ := huses
    rcases usesTimers_iff.mp huses with hreads | ⟨other, hset⟩
    · obtain ⟨after, hdone, hsame, -⟩ := step_readDelay hfree hreads
      rw [hstep] at hdone
      cases hdone
      rw [hsame]
    · obtain ⟨after, hdone, hafter⟩ := step_setTimer hfree hset
      have hne : timer ≠ other := by
        rintro rfl
        exact hidle (performs_of_step hfree hset hdone hstep)
      rw [hstep] at hdone
      cases hdone
      rw [hafter, Timer.value_set_of_ne hne]
  · rw [timers_of_step (fun hfree hused => huses ⟨hfree, hused⟩) hstep]

theorem movesTimer_of_answer (timer : Timer)
    (hreset : ∀ program seed initialFlags, call ≠ .reset program seed initialFlags)
    (hanswer : machine.answer call = .ok (result, next)) :
    Event.MovesTimer timer ⟨machine, call, result, next⟩ where
  set := by
    rintro hcall hfree word hword hset x hx
    obtain rfl : call = .step := hcall
    obtain rfl : machine.view.word = word := view_word hword
    obtain rfl : x = lastDigit (machine.view.word.toNat / 0x100) := Fin.ext hx
    obtain ⟨after, hdone, hafter⟩ := step_setTimer hfree hset
    have hstep : machine.step = .ok (result, next) := hanswer
    rw [hstep] at hdone
    cases hdone
    refine ⟨rfl, ?_⟩
    show timer.value next.timers = _
    rw [hafter, Timer.value_set]
  tick := by
    intro hcall
    obtain rfl : call = .tick := hcall
    cases hanswer
    exact timer.toNat_value_tick machine.timers
  kept := by
    intro htick hidle
    cases call with
    | step => exact timer_of_step hanswer hidle
    | tick => exact absurd rfl htick
    | acknowledgeScreen | acknowledgeFlags | resetDrawnBytes =>
        cases hanswer
        rfl
    | setKeys mask =>
        obtain ⟨rfl, registers, keys, rfl⟩ := kept_of_setKeys hanswer
        rfl
    | reset program seed initialFlags => exact absurd rfl (hreset program seed initialFlags)

theorem showsDelay_of_answer (hanswer : machine.answer call = .ok (result, next)) :
    Event.ShowsDelay ⟨machine, call, result, next⟩ := by
  rintro hcall hfree word hword hreads x hx
  obtain rfl : call = .step := hcall
  obtain rfl : machine.view.word = word := view_word hword
  obtain rfl : x = lastDigit (machine.view.word.toNat / 0x100) := Fin.ext hx
  obtain ⟨after, hdone, -, hregisters⟩ := step_readDelay hfree hreads
  have hstep : machine.step = .ok (result, next) := hanswer
  rw [hstep] at hdone
  cases hdone
  exact ⟨rfl, hregisters⟩

/-! ## Several calls -/

/-- A timer that nothing sets goes down by the number of ticks. -/
theorem toNat_timer_of_run (hmachine : machine.WellFormed) (hcalls : NoReset calls)
    (hrun : machine.run calls = .ok (events, last))
    (hidle : ∀ event ∈ events, ¬ event.Performs timer.SetBy) :
    (timer.value last.timers).toNat = (timer.value machine.timers).toNat - ticks events := by
  induction calls generalizing machine events with
  | nil =>
      cases hrun
      rfl
  | cons call rest ih =>
      obtain ⟨result, next, later, hanswer, hlater, rfl⟩ := run_cons_cases hrun
      have hcall := hcalls call List.mem_cons_self
      have hnext := (stacks_of_answer hmachine hcall hanswer).1
      have hmoves := movesTimer_of_answer timer hcall hanswer
      rw [List.forall_mem_cons] at hidle
      have hrest := ih hnext hcalls.tail hlater hidle.2
      by_cases htick : call = .tick
      · calc (timer.value last.timers).toNat
            = (timer.value next.timers).toNat - ticks later := hrest
          _ = (timer.value machine.timers).toNat - 1 - ticks later := by rw [hmoves.tick htick]
          _ = (timer.value machine.timers).toNat
                - ticks (⟨machine, call, result, next⟩ :: later) := by
              rw [ticks_cons_of_tick htick, Nat.sub_sub, Nat.add_comm 1]
      · calc (timer.value last.timers).toNat
            = (timer.value next.timers).toNat - ticks later := hrest
          _ = (timer.value machine.timers).toNat - ticks later := by
              rw [hmoves.kept htick hidle.1]
          _ = (timer.value machine.timers).toNat
                - ticks (⟨machine, call, result, next⟩ :: later) := by
              rw [ticks_cons_of_not htick]

theorem showsRest_of_run (timer : Timer) (hmachine : machine.WellFormed)
    (hcalls : NoReset calls) (hrest : machine.timers = {})
    (hrun : machine.run calls = .ok (events, last)) : ShowsRest timer events last where
  set := by
    rintro earlier event later rfl hsets hidle word hword x hx
    obtain ⟨past, future, rfl, hpast, hanswer, hfuture⟩ := run_split hrun
    have hbefore := wellFormed_of_run hmachine hpast
    obtain ⟨-, hfromEvent⟩ := hcalls.of_append
    have hcall := hfromEvent _ List.mem_cons_self
    have hafter := (stacks_of_answer hbefore hcall hanswer).1
    obtain ⟨⟨hstep, hfree, -⟩, hset⟩ := Event.performs_iff.mp hsets
    obtain rfl : event.before.view.word = word := view_word hword
    obtain ⟨-, hshown⟩ :=
      (movesTimer_of_answer timer hcall hanswer).set hstep hfree _ hword hset x hx
    calc (timer.value last.timers).toNat
        = (timer.value event.after.timers).toNat - ticks later :=
          toNat_timer_of_run hafter hfromEvent.tail hfuture hidle
      _ = (event.before.registers.get x).toNat - ticks later := by rw [hshown]
  unset := by
    intro hidle
    have hzero : (timer.value machine.timers).toNat = 0 := by
      rw [hrest]
      cases timer with
      | delay => rfl
      | sound => rfl
    have hlast := toNat_timer_of_run hmachine hcalls hrun hidle
    rw [hzero, Nat.zero_sub] at hlast
    exact UInt8.toNat_inj.mp hlast

/-- In the course of any calls but a reset, each timer shows what it was last set to, less
the ticks since then, and zero if it was never set.  An event other than a tick changes a
timer only if it carries out the instruction that sets it, and ticks always count.  `FX07`
reads what the delay timer shows. -/
theorem timers_show_rest {program : List UInt8} {seed initialFlags : UInt64} {fresh : Machine}
    (hload : load program seed initialFlags = .ok (.ok fresh)) (hcalls : NoReset calls) :
    ∃ events last, fresh.run calls = .ok (events, last) ∧
      (∀ timer, ShowsRest timer events last) ∧
      ∀ earlier event later, events = earlier ++ event :: later →
        (∀ timer, ShowsRest timer earlier event.before ∧ event.MovesTimer timer) ∧
          event.ShowsDelay := by
  obtain ⟨hfresh, htyped⟩ := wellFormed_of_load hload
  have hrest : fresh.timers = {} := Chip8.Machine.timers_of_load htyped
  obtain ⟨events, last, hrun, -⟩ := exists_run hfresh calls
  refine ⟨events, last, hrun, ?_, ?_⟩
  · intro timer
    exact showsRest_of_run timer hfresh hcalls hrest hrun
  · rintro earlier event later rfl
    obtain ⟨past, future, rfl, hpast, hanswer, -⟩ := run_split hrun
    obtain ⟨hbefore, hfromEvent⟩ := hcalls.of_append
    refine ⟨?_, showsDelay_of_answer hanswer⟩
    intro timer
    exact ⟨showsRest_of_run timer hfresh hbefore hrest hpast,
      movesTimer_of_answer timer (hfromEvent _ List.mem_cons_self) hanswer⟩

/-- The delay timer is set to 5, and counts down while the machine waits for a key. -/
theorem timers_show_rest_waiting : ∃ (fresh last : Machine) (events : List Event),
    load [0x60, 0x05, 0xF0, 0x15, 0xF1, 0x0A] 0 0 = .ok (.ok fresh) ∧
      fresh.run [.step, .step, .step, .tick, .step, .tick] = .ok (events, last) ∧
      last.keys.isWaiting = true ∧ last.timers.delay.toNat = 5 - 2 ∧ last.timers.sound = 0 := by
  have hsteps : ∃ fresh, load [0x60, 0x05, 0xF0, 0x15, 0xF1, 0x0A] 0 0 = .ok (.ok fresh) ∧
      ∃ put five, fresh.answer .step = .ok (put, five) ∧
        five.word = .ok 0xF015 ∧ five.registers.get Register.v0 = 5 ∧
      ∃ set counting, five.answer .step = .ok (set, counting) ∧
        Event.Performs Timer.delay.SetBy ⟨five, .step, set, counting⟩ ∧
      ∃ later last, counting.run [.step, .tick, .step, .tick] = .ok (later, last) ∧
        (∀ event ∈ later, ¬ event.Performs Timer.delay.SetBy) ∧ ticks later = 2 ∧
        (∀ event ∈ ⟨fresh, .step, put, five⟩ :: ⟨five, .step, set, counting⟩ :: later,
          ¬ event.Performs Timer.sound.SetBy) ∧
        last.keys.isWaiting = true := by
    decide +kernel
  obtain ⟨fresh, hload, put, five, hput, hword, hfive, set, counting, hset, hsets, later, last,
    hlater, hidle, hticks, hsilent, hwaiting⟩ := hsteps
  have hrun := run_cons hput (run_cons hset hlater)
  obtain ⟨_, _, hsame, hshows, -⟩ := timers_show_rest hload
    (show NoReset [.step, .step, .step, .tick, .step, .tick] by simp [NoReset])
  cases hrun.symm.trans hsame
  refine ⟨fresh, last, _, hload, hrun, hwaiting, ?_, (hshows .sound).unset hsilent⟩
  calc last.timers.delay.toNat
      = (five.registers.get Register.v0).toNat - ticks later :=
        (hshows .delay).set [_] _ later rfl hsets hidle 0xF015 hword .v0 rfl
    _ = 5 - 2 := by rw [hfive, hticks]; rfl

end Machine

end Raw

end Chip8
