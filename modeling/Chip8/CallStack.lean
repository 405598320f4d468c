import Chip8.Fault

/-!
# The call stack

Sixteen slots for return addresses and the number of those in use.  Slots at
or above that number keep whatever was last stored in them, which
`CallStack.toList` does not show.
-/

namespace Chip8

/-- A stack of at most sixteen entries. -/
structure CallStack (Entry : Type) where
  slots : Vector Entry 16
  depth : Nat
  depth_le : depth ≤ 16
  deriving DecidableEq

namespace CallStack

variable {Entry : Type}

def capacity : Nat := 16

/-- No slot in use; `filler` stands in all of them. -/
def empty (filler : Entry) : CallStack Entry where
  slots := Vector.replicate 16 filler
  depth := 0
  depth_le := by omega

/-- The entries in use, the most recent one first. -/
def toList (stack : CallStack Entry) : List Entry :=
  (stack.slots.toList.take stack.depth).reverse

/-- Add an entry on top, if a slot is free. -/
def push (stack : CallStack Entry) (entry : Entry) : Except Fault (CallStack Entry) :=
  if hfree : stack.depth < 16 then
    .ok {
      slots := stack.slots.set stack.depth entry
      depth := stack.depth + 1
      depth_le := hfree }
  else
    .error .stackOverflow

/-- The most recent entry, and the stack without it. -/
def pop (stack : CallStack Entry) : Except Fault (Entry × CallStack Entry) :=
  if hused : 0 < stack.depth then
    have hbound := stack.depth_le
    .ok (stack.slots[stack.depth - 1], {
      slots := stack.slots
      depth := stack.depth - 1
      depth_le := by omega })
  else
    .error .badReturn

/-! ## When there is no room, or nothing left -/

theorem push_error_iff {stack : CallStack Entry} {entry : Entry} {fault : Fault} :
    stack.push entry = .error fault ↔ fault = .stackOverflow ∧ stack.depth = 16 := by
  have hbound := stack.depth_le
  unfold push
  by_cases hfree : stack.depth < 16
  · simp [hfree, Nat.ne_of_lt hfree]
  · have hfull : stack.depth = 16 := by omega
    simp [hfull, eq_comm]

theorem pop_error_iff {stack : CallStack Entry} {fault : Fault} :
    stack.pop = .error fault ↔ fault = .badReturn ∧ stack.depth = 0 := by
  unfold pop
  by_cases hused : 0 < stack.depth
  · simp [hused, Nat.ne_of_gt hused]
  · simp [Nat.eq_zero_of_not_pos hused, eq_comm]

/-! ## The stack as a list -/

@[simp] theorem toList_empty (filler : Entry) : (empty filler).toList = [] := by
  simp [empty, toList]

@[simp] theorem length_toList (stack : CallStack Entry) : stack.toList.length = stack.depth := by
  have hbound := stack.depth_le
  simp only [toList, List.length_reverse, List.length_take, Vector.length_toList]
  omega

/-- A successful push puts its entry in front and keeps the others, whatever
the unused slots hold. -/
theorem toList_of_push {stack pushed : CallStack Entry} {entry : Entry}
    (hpush : stack.push entry = .ok pushed) : pushed.toList = entry :: stack.toList := by
  unfold push at hpush
  split at hpush
  · next hfree =>
    injection hpush with hpush
    subst hpush
    simp only [toList, Vector.toList_set]
    rw [List.take_succ_eq_append_getElem (by simpa using hfree)]
    simp [List.take_set_of_le]
  · contradiction

/-- A successful pop takes the front entry off. -/
theorem toList_of_pop {stack popped : CallStack Entry} {entry : Entry}
    (hpop : stack.pop = .ok (entry, popped)) : stack.toList = entry :: popped.toList := by
  have hbound := stack.depth_le
  unfold pop at hpop
  split at hpop
  · next hused =>
    cases hpop
    have hlast : stack.depth - 1 < stack.slots.toList.length := by
      rw [Vector.length_toList]
      omega
    have htake := List.take_succ_eq_append_getElem hlast
    rw [Nat.sub_add_cancel hused] at htake
    rw [toList, htake, List.reverse_append, Vector.getElem_toList]
    rfl
  · contradiction

end CallStack

end Chip8
