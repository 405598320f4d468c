import Chip8.Proofs.Raw.Safety

/-!
# Waiting for a key

After `FX0A` the machine stands still until a key goes down that was up in the mask
before.  Which masks came earlier, and how often the machine was stepped and ticked
meanwhile, makes no difference: the latest mask and the timers are all that changes.
A key that was held when the wait began can therefore end it only after a mask
without that key.
-/

namespace Chip8

namespace KeyMask

/-- The keys that go down when one mask follows another. -/
def pressed (previous next : KeyMask) : KeyMask :=
  next &&& ~~~previous

/-- The lowest key of a mask. -/
def IsLowest (mask : KeyMask) (key : Key) : Prop :=
  holds mask key = true ∧ ∀ lower, lower < key → holds mask lower = false

/-- The mask that was set last in the course of some calls, or else the one before. -/
def afterAll (mask : KeyMask) : List Machine.Call → KeyMask
  | [] => mask
  | .setKeys next :: rest => next.afterAll rest
  | _ :: rest => mask.afterAll rest

/-- No key goes down in the course of some calls. -/
def Quiet (mask : KeyMask) : List Machine.Call → Prop
  | [] => True
  | .setKeys next :: rest => mask.pressed next = 0 ∧ next.Quiet rest
  | _ :: rest => mask.Quiet rest

/-! ## Keys that go down -/

/-- A key that goes down was up before. -/
theorem up_of_pressed {mask next : KeyMask} {key : Key}
    (hdown : (mask.pressed next).holds key = true) : mask.holds key = false := by
  rw [pressed, Raw.holds_pressed, Bool.and_eq_true] at hdown
  simpa using hdown.2

theorem IsLowest.unique {mask : KeyMask} {key other : Key} (hkey : mask.IsLowest key)
    (hother : mask.IsLowest other) : key = other := by
  rcases Nat.lt_trichotomy key.val other.val with hlt | heq | hgt
  · exact absurd hkey.1 (Bool.eq_false_iff.mp (hother.2 key hlt))
  · exact Fin.ext heq
  · exact absurd hother.1 (Bool.eq_false_iff.mp (hkey.2 other hgt))

/-- The place of the lowest bit is the lowest key. -/
theorem isLowest_trailingZeros {mask : KeyMask} (hmask : mask ≠ 0) :
    ∃ key : Key, mask.IsLowest key ∧ Raw.trailingZeros mask = key.val := by
  cases hfind : (List.range 16).find? fun place => mask.toNat.testBit place with
  | none =>
      rw [List.find?_range_eq_none] at hfind
      refine absurd (Raw.eq_zero_of_holds fun key => ?_) hmask
      simpa [holds] using hfind key.val key.isLt
  | some place =>
      obtain ⟨hplace, hmem, hlower⟩ := List.find?_range_eq_some.mp hfind
      refine ⟨⟨place, List.mem_range.mp hmem⟩, ⟨hplace, ?_⟩, ?_⟩
      · intro lower hlt
        simpa [holds] using hlower lower.val hlt
      · rw [Raw.trailingZeros, hfind]
        rfl

/-- If keys go down in the course of some calls, there is a first time. -/
theorem exists_press_of_not_quiet {mask : KeyMask} {calls : List Machine.Call}
    (hloud : ¬ mask.Quiet calls) : ∃ before next rest, calls = before ++ .setKeys next :: rest ∧
      mask.Quiet before ∧ (mask.afterAll before).pressed next ≠ 0 := by
  induction calls generalizing mask with
  | nil => exact absurd trivial hloud
  | cons call rest ih =>
      cases call with
      | setKeys next =>
          by_cases hpress : mask.pressed next = 0
          · have hrest : ¬ next.Quiet rest := fun hquiet => hloud ⟨hpress, hquiet⟩
            obtain ⟨before, last, later, rfl, hbefore, hlast⟩ := ih hrest
            exact ⟨.setKeys next :: before, last, later, rfl, ⟨hpress, hbefore⟩, hlast⟩
          · exact ⟨[], next, rest, rfl, trivial, hpress⟩
      | step | tick | acknowledgeScreen | acknowledgeFlags | resetDrawnBytes | reset =>
          obtain ⟨before, last, later, rfl, hbefore, hlast⟩ := ih hloud
          exact ⟨_ :: before, last, later, rfl, hbefore, hlast⟩

/-- A key that is held at first and not at last has been released. -/
theorem exists_release {mask : KeyMask} {calls : List Machine.Call} {key : Key}
    (hheld : mask.holds key = true) (hup : (mask.afterAll calls).holds key = false) :
    ∃ next, .setKeys next ∈ calls ∧ KeyMask.holds next key = false := by
  induction calls generalizing mask with
  | nil =>
      rw [afterAll, hheld] at hup
      contradiction
  | cons call rest ih =>
      cases call with
      | setKeys next =>
          cases hnext : KeyMask.holds next key with
          | false => exact ⟨next, List.mem_cons_self, hnext⟩
          | true =>
              obtain ⟨other, hother, hrelease⟩ := ih hnext hup
              exact ⟨other, List.mem_cons_of_mem _ hother, hrelease⟩
      | step | tick | acknowledgeScreen | acknowledgeFlags | resetDrawnBytes | reset =>
          obtain ⟨other, hother, hrelease⟩ := ih hheld hup
          exact ⟨other, List.mem_cons_of_mem _ hother, hrelease⟩

end KeyMask

namespace Raw.Machine

variable {machine held : Machine} {x : Register}

/-- The machine is stepped and ticked, and its keys are set. -/
def Plays (calls : List Machine.Call) : Prop :=
  ∀ call ∈ calls, call = .step ∨ call = .tick ∨ ∃ mask, call = .setKeys mask

/-- The machine behind `FX0A`. -/
def awaiting (machine : Machine) (x : Register) : Machine :=
  { machine with
    counter := (machine.counter + 2) &&& addressMask
    keys := machine.keys.waitFor (UInt8.ofNat x.val) }

/-- A machine that waits, after calls that leave it waiting. -/
def heldAfter (machine : Machine) (calls : List Machine.Call) : Machine :=
  { machine with
    timers := machine.timers.tickTimes (calls.count .tick)
    keys := { machine.keys with mask := machine.keys.mask.afterAll calls } }

/-- What is left of a wait when a key has gone down: the key is in the register that
waited for it. -/
def resumed (machine : Machine) (x : Register) (key : Key) (mask : KeyMask) : Machine :=
  { machine.withRegister x (UInt8.ofNat key.val) with keys := { mask := mask, waiting := none } }

/-- The machine waits for a key that is meant for VX. -/
structure Awaits (held : Machine) (x : Register) : Prop where
  /-- Steps change nothing. -/
  step : held.answer .step = .ok (.ok (), held)
  /-- Ticks change the timers. -/
  tick : held.answer .tick = .ok (.ok (), { held with timers := held.timers.tick })
  /-- As long as no key goes down, a new mask changes the mask. -/
  quiet : ∀ mask, held.keys.mask.pressed mask = 0 → held.answer (.setKeys mask)
    = .ok (.ok (), { held with keys := { held.keys with mask := mask } })
  /-- The lowest key that goes down ends the wait, and the next step carries out the
  instruction at the counter. -/
  press : ∀ mask, held.keys.mask.pressed mask ≠ 0 → ∃ key,
    (held.keys.mask.pressed mask).IsLowest key ∧
    held.answer (.setKeys mask) = .ok (.ok (), held.resumed x key mask) ∧
    (held.resumed x key mask).step = (do
      match decode (← held.word) with
      | none => return (.error .illegalOpcode, held.resumed x key mask)
      | some instruction => (held.resumed x key mask).carryOut instruction)

/-! ## While the machine waits -/

theorem awaits (hwaiting : held.keys.waiting = some (UInt8.ofNat x.val)) : held.Awaits x where
  step := by
    have hheld : held.keys.isWaiting = true := by rw [KeyLatch.isWaiting, hwaiting]; rfl
    rw [answer, step, if_pos hheld]
    rfl
  tick := rfl
  quiet := by
    intro mask hquiet
    have hmask : replaceMask held.keys mask = (none, { held.keys with mask := mask }) := by
      simp only [replaceMask, hwaiting]
      exact if_neg (not_not.mpr hquiet)
    rw [answer, setKeys, hmask]
    rfl
  press := by
    intro mask hpress
    obtain ⟨key, hlowest, hzeros⟩ := KeyMask.isLowest_trailingZeros hpress
    have hmask : replaceMask held.keys mask
        = (some (UInt8.ofNat x.val, UInt8.ofNat key.val), { mask := mask, waiting := none }) := by
      rw [← hzeros]
      simp only [replaceMask, hwaiting]
      exact if_pos hpress
    refine ⟨key, hlowest, ?_, rfl⟩
    rw [answer, setKeys, hmask]
    simp only [setRegister_eq, lastDigit_ofNat]
    rfl

/-- The machine goes on waiting as long as no key goes down. -/
theorem afterAll_of_quiet (hwaiting : held.keys.waiting = some (UInt8.ofNat x.val))
    {calls : List Machine.Call} (hcalls : Plays calls) (hquiet : held.keys.mask.Quiet calls) :
    held.afterAll calls = .ok (held.heldAfter calls) := by
  induction calls generalizing held with
  | nil => rfl
  | cons call rest ih =>
      have hrest : Plays rest := fun other hother => hcalls other (List.mem_cons_of_mem call hother)
      have hawaits := awaits hwaiting
      rw [afterAll]
      rcases hcalls call List.mem_cons_self with rfl | rfl | ⟨mask, rfl⟩
      · rw [hawaits.step, ok_bind]
        exact ih hwaiting hrest hquiet
      · rw [hawaits.tick, ok_bind]
        have hticked : heldAfter { held with timers := held.timers.tick } rest
            = held.heldAfter (.tick :: rest) := by
          rw [heldAfter, heldAfter, List.count_cons_self, Timers.tickTimes_succ]
          rfl
        rw [← hticked]
        exact ih hwaiting hrest hquiet
      · obtain ⟨hnone, hlater⟩ := hquiet
        rw [hawaits.quiet mask hnone, ok_bind]
        exact ih hwaiting hrest hlater

/-! ## How a wait begins and ends -/

theorem step_awaitKey {word : UInt16} (hidle : machine.keys.isWaiting = false)
    (hword : machine.word = .ok word) (hlead : word.toNat / 0x1000 = 0xF)
    (hlow : word.toNat % 0x100 = 0x0A) :
    machine.step = .ok (.ok (), machine.awaiting (lastDigit (word.toNat / 0x100))) := by
  have hdecode : Instruction.decode? machine.view.word
      = some (.awaitKey (lastDigit (word.toNat / 0x100))) := by
    rw [view_word hword, Instruction.decode?_transfer hlead, hlow]
    rfl
  exact step_of_execute hidle hdecode rfl

theorem toNat_counter_awaiting (machine : Machine) (x : Register) :
    (machine.awaiting x).counter.toNat = (machine.counter.toNat + 2) % 4096 := by
  calc (machine.awaiting x).counter.toNat
      = (machine.counter + 2).toNat % 4096 := toNat_and_addressMask _
    _ = (machine.counter.toNat + 2) % 65536 % 4096 :=
        congrArg (· % 4096) (UInt16.toNat_add machine.counter 2)
    _ = (machine.counter.toNat + 2) % 4096 := Nat.mod_mod_of_dvd _ (by decide)

/-- A machine that carries out `FX0A` waits until a key goes down: until then only ticks
and masks leave a trace, and only in the timers and in the mask.  The first mask with a
key that was not in the one before ends the wait.  If that key was held when the wait
began, a mask without it has come in between. -/
theorem wait_ends_with_press {word : UInt16} (hidle : machine.keys.isWaiting = false)
    (hword : machine.word = .ok word) (hlead : word.toNat / 0x1000 = 0xF)
    (hlow : word.toNat % 0x100 = 0x0A) :
    ∃ x waiting, x.val = word.toNat / 0x100 % 0x10 ∧ waiting = machine.awaiting x ∧
      machine.step = .ok (.ok (), waiting) ∧
      waiting.counter.toNat = (machine.counter.toNat + 2) % 4096 ∧
      ∀ calls, Plays calls →
        (machine.keys.mask.Quiet calls →
          waiting.afterAll calls = .ok (waiting.heldAfter calls) ∧
            (waiting.heldAfter calls).Awaits x) ∧
        (¬ machine.keys.mask.Quiet calls →
          ∃ before mask rest, calls = before ++ .setKeys mask :: rest ∧
            machine.keys.mask.Quiet before ∧
            waiting.afterAll before = .ok (waiting.heldAfter before) ∧
            (waiting.heldAfter before).Awaits x ∧
            (waiting.heldAfter before).keys.mask.pressed mask ≠ 0 ∧
            ∀ key, ((waiting.heldAfter before).keys.mask.pressed mask).holds key = true →
              machine.keys.mask.holds key = true →
              ∃ other, .setKeys other ∈ before ∧ KeyMask.holds other key = false) := by
  refine ⟨lastDigit (word.toNat / 0x100), _, rfl, rfl,
    step_awaitKey hidle hword hlead hlow, toNat_counter_awaiting .., ?_⟩
  generalize lastDigit (word.toNat / 0x100) = x
  -- the wait is the same after all calls in which no key goes down
  have hquiet : ∀ calls, Plays calls → machine.keys.mask.Quiet calls →
      (machine.awaiting x).afterAll calls = .ok ((machine.awaiting x).heldAfter calls) ∧
        ((machine.awaiting x).heldAfter calls).Awaits x := by
    intro calls hcalls hquiet
    have hwaiting : (machine.awaiting x).keys.waiting = some (UInt8.ofNat x.val) := rfl
    exact ⟨afterAll_of_quiet hwaiting hcalls hquiet, awaits hwaiting⟩
  intro calls hcalls
  refine ⟨hquiet calls hcalls, ?_⟩
  intro hloud
  obtain ⟨before, mask, rest, rfl, hbefore, hpress⟩ := KeyMask.exists_press_of_not_quiet hloud
  have hplays : Plays before := fun call hcall => hcalls call (List.mem_append_left _ hcall)
  obtain ⟨hrun, hawaits⟩ := hquiet before hplays hbefore
  refine ⟨before, mask, rest, rfl, hbefore, hrun, hawaits, hpress, ?_⟩
  intro key hdown hheld
  exact KeyMask.exists_release hheld (KeyMask.up_of_pressed hdown)

/-- Key 0 is held when the wait for V3 begins, and ends it when it goes down again
together with key 2. -/
theorem wait_ends_with_press_again : ∃ fresh machine waiting held : Machine,
    load [0xF3, 0x0A] 0 0 = .ok (.ok fresh) ∧ fresh.afterAll [.setKeys 0x0001] = .ok machine ∧
      machine.step = .ok (.ok (), waiting) ∧
      waiting.afterAll [.tick, .setKeys 0x0001, .step, .setKeys 0x0000] = .ok held ∧
      held.answer (.setKeys 0x0005)
        = .ok (.ok (), held.resumed (lastDigit 0x3) (lastDigit 0x0) 0x0005) := by
  have hstart : ∃ fresh, load [0xF3, 0x0A] 0 0 = .ok (.ok fresh) ∧
      ∃ machine, fresh.afterAll [.setKeys 0x0001] = .ok machine ∧
        machine.keys.isWaiting = false ∧ machine.keys.mask = 0x0001 ∧
        machine.word = .ok 0xF30A := by
    decide +kernel
  obtain ⟨fresh, hload, machine, hmachine, hidle, hmask, hword⟩ := hstart
  obtain ⟨x, waiting, hx, rfl, hstep, _, hcalls⟩ :=
    wait_ends_with_press hidle hword (by decide) (by decide)
  have hregister : x = lastDigit 0x3 := Fin.ext hx
  subst hregister
  obtain ⟨hquiet, _⟩ := hcalls [.tick, .setKeys 0x0001, .step, .setKeys 0x0000] (by simp [Plays])
  obtain ⟨hrun, hawaits⟩ := hquiet (by rw [hmask]; exact ⟨by decide, by decide, trivial⟩)
  have hpressed : ((machine.awaiting (lastDigit 0x3)).heldAfter
      [.tick, .setKeys 0x0001, .step, .setKeys 0x0000]).keys.mask.pressed 0x0005 = 0x0005 := by
    show KeyMask.pressed 0x0000 0x0005 = 0x0005
    decide
  obtain ⟨key, hlowest, hanswer, _⟩ := hawaits.press 0x0005 (by rw [hpressed]; decide)
  rw [hpressed] at hlowest
  have hkey : key = lastDigit 0x0 := hlowest.unique ⟨by decide, by decide⟩
  rw [hkey] at hanswer
  exact ⟨fresh, machine, _, _, hload, hmachine, hstep, hrun, hanswer⟩

end Raw.Machine

end Chip8
