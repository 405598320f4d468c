import Mathlib.Data.List.FinRange
import Chip8.Proofs.Raw.Memory

/-!
# The parts of a stored machine

What the operations on the call stack, the flag registers and the key latch do
to the parts that these stand for.  None of them crashes on a stack whose free
slots begin where they may, and none that fails leaves a trace.
-/

namespace Chip8.Raw

/-! ## The call stack -/

namespace CallStack

variable {stack first second : CallStack}

/-- No more slots are in use than there are, and all of these hold addresses. -/
structure WellFormed (stack : CallStack) : Prop where
  pointer_le : stack.pointer ≤ 16
  saved_lt : ∀ place : Fin 16, place.val < stack.pointer → stack.frames[place].toNat < 4096

theorem wellFormed_empty : WellFormed empty where
  pointer_le := by decide
  saved_lt := by
    intro place hplace
    exact absurd hplace (Nat.not_lt_zero place.val)

@[simp] theorem view_empty : empty.view = .empty .zero := by
  simp [view, empty, Chip8.CallStack.empty, addressOf, Address.zero]

/-- The slots in use hold the same addresses. -/
structure SameInUse (first second : CallStack) : Prop where
  pointer : second.pointer = first.pointer
  frames : ∀ place : Fin 16, place.val < first.pointer →
    second.frames[place] = first.frames[place]

theorem SameInUse.refl (stack : CallStack) : SameInUse stack stack :=
  ⟨rfl, fun _ _ => rfl⟩

theorem SameInUse.symm (hsame : SameInUse first second) : SameInUse second first :=
  ⟨hsame.pointer.symm, fun place hplace => (hsame.frames place (hsame.pointer ▸ hplace)).symm⟩

theorem SameInUse.trans {third : CallStack} (hfirst : SameInUse first second)
    (hsecond : SameInUse second third) : SameInUse first third := by
  refine ⟨hsecond.pointer.trans hfirst.pointer, ?_⟩
  intro place hplace
  rw [hsecond.frames place (hfirst.pointer ▸ hplace), hfirst.frames place hplace]

theorem push_of_full (hfull : stack.pointer = 16) (address : UInt16) :
    stack.push address = .ok (.error .stackOverflow, stack) := by
  rw [push, if_pos hfull]
  rfl

theorem push_of_free (hfree : stack.pointer < 16) (address : UInt16) :
    stack.push address
      = .ok (.ok (), ⟨stack.frames.set stack.pointer address hfree, stack.pointer + 1⟩) := by
  have hsize : stack.pointer + 1 < UInt64.size := by
    unfold UInt64.size
    omega
  rw [push, if_neg (Nat.ne_of_lt hfree), replaceAt_eq _ _ hfree, ok_bind, asSize_eq hsize]
  rfl

theorem pop_of_none (hnone : stack.pointer = 0) :
    stack.pop = .ok (.error .badReturn, stack) := by
  rw [pop, if_pos hnone]
  rfl

theorem pop_of_used (hused : 0 < stack.pointer) (htop : stack.pointer - 1 < 16) :
    stack.pop
      = .ok (.ok stack.frames[stack.pointer - 1], { stack with pointer := stack.pointer - 1 }) := by
  rw [pop, if_neg (Nat.ne_of_gt hused), oneLess_eq hused, ok_bind, entryAt_eq _ htop]
  rfl

/-- A push saves an address, or fails if there is no free slot. -/
theorem push_cases (hstack : stack.WellFormed) {address : UInt16}
    (haddress : address.toNat < 4096) :
    (stack.push address = .ok (.error .stackOverflow, stack) ∧
      stack.view.push (addressOf address) = .error .stackOverflow) ∨
    ∃ pushed, stack.push address = .ok (.ok (), pushed) ∧ pushed.WellFormed ∧
      stack.view.push (addressOf address) = .ok pushed.view := by
  have hle := hstack.pointer_le
  by_cases hfull : stack.pointer = 16
  · left
    refine ⟨push_of_full hfull address, ?_⟩
    rw [Chip8.CallStack.push, dif_neg (by simp [view, hfull])]
  · right
    have hfree : stack.pointer < 16 := by omega
    refine ⟨_, push_of_free hfree address, ?_, ?_⟩
    · refine ⟨hfree, ?_⟩
      intro place hplace
      -- the new address is on top, and those below it are the old ones
      by_cases htop : stack.pointer = place.val
      · simpa [htop] using haddress
      · have hbelow : place.val < stack.pointer := by
          simp only at hplace
          omega
        simpa [Vector.getElem_set_ne, htop] using hstack.saved_lt place hbelow
    · have hdepth : min stack.pointer 16 = stack.pointer := Nat.min_eq_left hle
      have hdepth' : min (stack.pointer + 1) 16 = stack.pointer + 1 := Nat.min_eq_left hfree
      simp only [Chip8.CallStack.push, view, hdepth, hdepth', hfree, dif_pos, Vector.map_set]

/-- A pop takes an address off, or fails if there is none. -/
theorem pop_cases (hstack : stack.WellFormed) :
    (stack.pop = .ok (.error .badReturn, stack) ∧ stack.view.pop = .error .badReturn) ∨
    ∃ address popped, stack.pop = .ok (.ok address, popped) ∧ address.toNat < 4096 ∧
      popped.WellFormed ∧ stack.view.pop = .ok (addressOf address, popped.view) := by
  have hle := hstack.pointer_le
  by_cases hnone : stack.pointer = 0
  · left
    refine ⟨pop_of_none hnone, ?_⟩
    rw [Chip8.CallStack.pop, dif_neg (by simp [view, hnone])]
  · right
    have hpositive : 0 < stack.pointer := Nat.pos_of_ne_zero hnone
    have htop : stack.pointer - 1 < 16 := by omega
    refine ⟨_, _, pop_of_used hpositive htop, ?_, ?_, ?_⟩
    · exact hstack.saved_lt ⟨stack.pointer - 1, htop⟩ (by simp only; omega)
    · refine ⟨by simp only; omega, ?_⟩
      intro place hplace
      exact hstack.saved_lt place (by simp only at hplace; omega)
    · have hdepth : min stack.pointer 16 = stack.pointer := Nat.min_eq_left hle
      have hdepth' : min (stack.pointer - 1) 16 = stack.pointer - 1 := Nat.min_eq_left (by omega)
      simp [Chip8.CallStack.pop, view, hdepth, hdepth', hpositive]

end CallStack

/-! ## The flag registers -/

/-- Registers are saved if they are no more than there are flags. -/
theorem saveFlags_eq (flags : FlagRegisters) (values : List UInt8) :
    saveFlags flags values = .ok (match flags.save values with
      | .error fault => (.error fault, flags)
      | .ok saved => (.ok (), saved)) := by
  unfold saveFlags FlagRegisters.save
  by_cases hlength : values.length ≤ 8
  · have hreplace := replaceRange_eq flags.bytes 0 values (by omega)
    rw [Nat.zero_add] at hreplace
    rw [if_neg (by omega), if_pos hlength, hreplace]
    simp
  · rw [if_pos (by omega), if_neg hlength]
    rfl

/-- Flags are restored if there are as many as are asked for. -/
theorem restoreFlags_eq (flags : FlagRegisters) (window : List UInt8) :
    restoreFlags flags window = .ok (match flags.restore window.length with
      | .error fault => (.error fault, window)
      | .ok values => (.ok (), values)) := by
  unfold restoreFlags FlagRegisters.restore
  by_cases hlength : window.length ≤ 8
  · have hcopied : window.length = (flags.bytes.toList.take window.length).length := by
      simp [hlength]
    rw [if_neg (by omega), if_pos hlength, rangeOf_zero flags.bytes hlength, ok_bind,
      copyOnto_eq hcopied]
    rfl
  · rw [if_pos (by omega), if_neg hlength]
    rfl

/-- As many flags come back as were asked for. -/
theorem length_of_restore {flags : FlagRegisters} {count : Nat} {values : List UInt8}
    (hrestore : flags.restore count = .ok values) : values.length = count := by
  unfold FlagRegisters.restore at hrestore
  split at hrestore
  · next hcount =>
    cases hrestore
    simp [hcount]
  · contradiction

/-! ## The key latch -/

/-- A key that goes down is in the new mask and not in the old one. -/
theorem holds_pressed (previous next : KeyMask) (key : Key) :
    KeyMask.holds (next &&& ~~~previous) key
      = (KeyMask.holds next key && !KeyMask.holds previous key) := by
  show (next &&& ~~~previous).toBitVec.getLsbD key
    = (next.toBitVec.getLsbD key && !previous.toBitVec.getLsbD key)
  simp [key.isLt]

theorem newlyHeld_eq (previous next : KeyMask) :
    KeyMask.newlyHeld previous next
      = (List.finRange 16).filter fun key => KeyMask.holds (next &&& ~~~previous) key := by
  simp only [KeyMask.newlyHeld, holds_pressed]

/-- A mask without keys is zero. -/
theorem eq_zero_of_holds {mask : KeyMask} (hnone : ∀ key, KeyMask.holds mask key = false) :
    mask = 0 := by
  apply UInt16.toBitVec_inj.mp
  apply BitVec.eq_of_getLsbD_eq
  intro place hplace
  have hkey : mask.toBitVec.getLsbD place = false := hnone ⟨place, hplace⟩
  simpa using hkey

/-- The lowest key of a mask. -/
theorem find?_holds (mask : KeyMask) :
    ((List.finRange 16).find? fun key => KeyMask.holds mask key).map Fin.val
      = (List.range 16).find? fun place => mask.toNat.testBit place := by
  rw [← List.map_coe_finRange_eq_range, List.find?_map]
  rfl

/-- Masking a word with one bit leaves something if the word has that bit. -/
theorem and_wordBit_ne_zero (word : UInt16) {place : Nat} (hplace : place < 16) :
    word &&& (1 <<< UInt16.ofNat place) ≠ 0 ↔ word.toNat.testBit place = true := by
  have hbit : ((1 : UInt16) <<< UInt16.ofNat place).toNat = 1 <<< place := by
    rw [UInt16.toNat_shiftLeft, UInt16.toNat_ofNat', UInt16.toNat_one]
    have hmod : place % 65536 % 16 = place := by omega
    have hlt : 1 <<< place < 65536 := one_shiftLeft_lt hplace
    rw [hmod, Nat.mod_eq_of_lt hlt]
  rw [Ne, ← UInt16.toNat_inj, UInt16.toNat_and, hbit]
  exact and_one_shiftLeft_ne_zero word.toNat place

theorem isPressed_eq (latch : KeyLatch UInt8) (key : UInt8) :
    isPressed latch key = .ok ((keysView latch).isPressed key) := by
  have hplace : key.toNat % 16 < 16 := Nat.mod_lt _ (by decide)
  rw [isPressed, toNat_and_lowNibble, wordBit_eq hplace, ok_bind, pure_eq_ok]
  simp only [and_wordBit_ne_zero latch.mask hplace, Bool.decide_eq_true]
  rfl

/-- Replacing the mask ends a wait if some key goes down, with the lowest such
key. -/
theorem replaceMask_cases (latch : KeyLatch UInt8) (mask : KeyMask) :
    (∃ changed, replaceMask latch mask = (none, changed) ∧ changed.waiting = latch.waiting ∧
      (keysView latch).delivery? mask = none ∧ keysView changed = (keysView latch).setKeys mask) ∨
    ∃ x pressed changed, replaceMask latch mask = (some (x, UInt8.ofNat pressed.val), changed) ∧
      changed.waiting = none ∧
      (keysView latch).delivery? mask = some (lastDigit x.toNat, pressed) ∧
      keysView changed = (keysView latch).setKeys mask := by
  cases hwaiting : latch.waiting with
  | none =>
      left
      refine ⟨{ latch with mask := mask }, ?_, hwaiting, ?_, ?_⟩
      · rw [replaceMask, hwaiting]
      · simp [keysView, KeyLatch.delivery?, hwaiting]
      · simp [keysView, KeyLatch.setKeys, KeyLatch.delivery?, hwaiting]
  | some x =>
      cases hheld : KeyMask.newlyHeld latch.mask mask with
      | nil =>
          have hpressed : mask &&& ~~~latch.mask = 0 := by
            apply eq_zero_of_holds
            intro key
            rw [newlyHeld_eq, List.filter_eq_nil_iff] at hheld
            simpa using hheld key (List.mem_finRange key)
          left
          refine ⟨{ latch with mask := mask }, ?_, hwaiting, ?_, ?_⟩
          · simp [replaceMask, hwaiting, hpressed]
          · simp [keysView, KeyLatch.delivery?, hwaiting, hheld]
          · simp [keysView, KeyLatch.setKeys, KeyLatch.delivery?, hwaiting, hheld]
      | cons pressed others =>
          have hlowest := find?_holds (mask &&& ~~~latch.mask)
          rw [← List.head?_filter, ← newlyHeld_eq, hheld] at hlowest
          have hplace : trailingZeros (mask &&& ~~~latch.mask) = pressed.val := by
            rw [trailingZeros, ← hlowest]
            rfl
          have hpressed : mask &&& ~~~latch.mask ≠ 0 := by
            intro hzero
            have hmem : pressed ∈ KeyMask.newlyHeld latch.mask mask :=
              hheld ▸ List.mem_cons_self
            rw [newlyHeld_eq, hzero, List.mem_filter] at hmem
            simp [KeyMask.holds] at hmem
          right
          refine ⟨x, pressed, { mask := mask, waiting := none }, ?_, rfl, ?_, ?_⟩
          · simp only [replaceMask, hwaiting, if_pos hpressed, hplace]
          · simp [keysView, KeyLatch.delivery?, hwaiting, hheld]
          · simp [keysView, KeyLatch.setKeys, KeyLatch.delivery?, hwaiting, hheld]

end Chip8.Raw
