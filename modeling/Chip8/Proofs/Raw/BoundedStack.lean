import Chip8.Proofs.Raw.Parts

/-!
# The call stack as a list

A call stack replies to pushes and pops like a list of at most sixteen addresses, to which
addresses are added in front and from where they are taken off again.  The frames below the
pointer are this list, read from its end.  What stands in the frames above, where earlier
pops have left it, is no part of the relation between the two, and so it cannot show in any
reply.
-/

namespace Chip8.Raw.CallStack

/-- What a call stack can be asked for. -/
inductive Request where
  | push (address : UInt16)
  | pop

/-- Why a request fails, or the address that it takes off, which for a push is none. -/
abbrev Reply := Except Fault (Option UInt16)

/-- The reply of a stack to a request, and the stack after it. -/
def answer (stack : CallStack) : Request → Checked (Reply × CallStack)
  | .push address => do
      let (result, next) ← stack.push address
      return (result.map fun _ => none, next)
  | .pop => do
      let (result, next) ← stack.pop
      return (result.map some, next)

/-- The replies to requests, each with the depth after it, and the stack after all of them. -/
def answerAll (stack : CallStack) : List Request → Checked (List (Reply × Nat) × CallStack)
  | [] => return ([], stack)
  | request :: rest => do
      let (reply, next) ← stack.answer request
      let (later, last) ← next.answerAll rest
      return ((reply, next.pointer) :: later, last)

/-- The reply of a list that has room for sixteen addresses, the most recent one first, and
the list after it. -/
def listAnswer : List UInt16 → Request → Reply × List UInt16
  | saved, .push address =>
      if saved.length < 16 then (.ok none, address :: saved) else (.error .stackOverflow, saved)
  | [], .pop => (.error .badReturn, [])
  | address :: rest, .pop => (.ok (some address), rest)

/-- The replies of the list to requests, each with the length after it, and the list after
all of them. -/
def listAnswerAll (saved : List UInt16) : List Request → List (Reply × Nat) × List UInt16
  | [] => ([], saved)
  | request :: rest =>
      let now := listAnswer saved request
      let later := listAnswerAll now.2 rest
      ((now.1, now.2.length) :: later.1, later.2)

/-! ## Frames that hold a list -/

/-- The frames below the pointer hold addresses, of which the first is on top.  The other
frames may hold anything. -/
structure Holds (stack : CallStack) (saved : List UInt16) : Prop where
  pointer_eq : stack.pointer = saved.length
  length_le : saved.length ≤ 16
  frame : ∀ place : Fin 16, place.val < saved.length →
    saved.reverse[place.val]? = some (stack.frames.get place)

variable {stack other : CallStack} {saved rest : List UInt16} {address : UInt16}

theorem holds_empty : empty.Holds [] where
  pointer_eq := rfl
  length_le := Nat.zero_le 16
  frame := by
    intro place hplace
    exact absurd hplace (Nat.not_lt_zero place.val)

/-- Frames above the pointer do not matter. -/
theorem Holds.of_same (hholds : stack.Holds saved) (hsame : stack.SameInUse other) :
    other.Holds saved where
  pointer_eq := hsame.pointer.trans hholds.pointer_eq
  length_le := hholds.length_le
  frame := by
    intro place hplace
    have hframe : other.frames.get place = stack.frames.get place :=
      hsame.frames place (hholds.pointer_eq ▸ hplace)
    rw [hframe]
    exact hholds.frame place hplace

/-- Read from its end, a list has its first address behind all others. -/
theorem getElem?_reverse_top (address : UInt16) (rest : List UInt16) :
    (address :: rest).reverse[rest.length]? = some address := by
  rw [List.reverse_cons, ← List.length_reverse, List.getElem?_concat_length]

/-- Read from its end, an address more in front leaves the others in their places. -/
theorem getElem?_reverse_below (address : UInt16) {place : Nat} (hplace : place < rest.length) :
    (address :: rest).reverse[place]? = rest.reverse[place]? := by
  rw [List.reverse_cons, List.getElem?_append_left (by rwa [List.length_reverse])]

/-- A push onto a list with room for one more. -/
theorem Holds.push (hholds : stack.Holds saved) (hfree : saved.length < 16) (address : UInt16) :
    ∃ pushed, stack.push address = .ok (.ok (), pushed) ∧ pushed.Holds (address :: saved) := by
  obtain ⟨frames, pointer⟩ := stack
  obtain rfl : pointer = saved.length := hholds.pointer_eq
  refine ⟨_, push_of_free hfree address, rfl, hfree, ?_⟩
  intro place hplace
  -- the new address is on top, and those below it are the old ones
  rcases Nat.lt_succ_iff_lt_or_eq.mp hplace with hbelow | htop
  · have hkept : (frames.set saved.length address hfree).get place = frames.get place :=
      Vector.getElem_set_ne hfree place.isLt (Nat.ne_of_gt hbelow)
    rw [getElem?_reverse_below address hbelow, hkept]
    exact hholds.frame place hbelow
  · obtain rfl : place = ⟨saved.length, hfree⟩ := Fin.ext htop
    have hnew : (frames.set saved.length address hfree).get ⟨saved.length, hfree⟩ = address :=
      Vector.getElem_set_self hfree
    rw [hnew]
    exact getElem?_reverse_top address saved

/-- A pop of a list with an address in it. -/
theorem Holds.pop (hholds : stack.Holds (address :: rest)) :
    ∃ popped, stack.pop = .ok (.ok address, popped) ∧ popped.Holds rest := by
  obtain ⟨frames, pointer⟩ := stack
  obtain rfl : pointer = rest.length + 1 := hholds.pointer_eq
  have hlength : rest.length < 16 := hholds.length_le
  have htop := hholds.frame ⟨rest.length, hlength⟩ (Nat.lt_succ_self _)
  rw [getElem?_reverse_top] at htop
  have haddress : frames[rest.length] = address := (Option.some.inj htop).symm
  refine ⟨⟨frames, rest.length⟩, ?_, rfl, hlength.le, ?_⟩
  · have hused : 0 < CallStack.pointer ⟨frames, rest.length + 1⟩ := Nat.succ_pos _
    rw [← haddress]
    exact pop_of_used hused hlength
  · intro place hplace
    have hframe := hholds.frame place (Nat.lt_succ_of_lt hplace)
    rwa [getElem?_reverse_below address hplace] at hframe

/-! ## Requests -/

/-- A stack whose frames hold a list replies like the list, and a request that fails changes
nothing. -/
theorem Holds.answer (hholds : stack.Holds saved) (request : Request) :
    ∃ next, stack.answer request = .ok ((listAnswer saved request).1, next) ∧
      next.Holds (listAnswer saved request).2 ∧
      ∀ fault, (listAnswer saved request).1 = .error fault → next = stack := by
  have hpointer := hholds.pointer_eq
  cases request with
  | push address =>
      by_cases hfree : saved.length < 16
      · obtain ⟨pushed, hpush, hpushed⟩ := hholds.push hfree address
        rw [CallStack.answer, hpush, listAnswer, if_pos hfree]
        exact ⟨pushed, rfl, hpushed, by simp⟩
      · have hfull : stack.pointer = 16 := by
          have hlength := hholds.length_le
          omega
        rw [CallStack.answer, push_of_full hfull, listAnswer, if_neg hfree]
        exact ⟨stack, rfl, hholds, fun _ _ => rfl⟩
  | pop =>
      cases saved with
      | nil =>
          rw [CallStack.answer, pop_of_none hpointer]
          exact ⟨stack, rfl, hholds, fun _ _ => rfl⟩
      | cons address rest =>
          obtain ⟨popped, hpop, hpopped⟩ := hholds.pop
          rw [CallStack.answer, hpop]
          exact ⟨popped, rfl, hpopped, by simp [listAnswer]⟩

theorem Holds.answerAll (hholds : stack.Holds saved) (requests : List Request) :
    ∃ last, stack.answerAll requests = .ok ((listAnswerAll saved requests).1, last) ∧
      last.Holds (listAnswerAll saved requests).2 := by
  induction requests generalizing stack saved with
  | nil => exact ⟨stack, rfl, hholds⟩
  | cons request rest ih =>
      obtain ⟨next, hanswer, hnext, -⟩ := hholds.answer request
      obtain ⟨last, hrest, hlast⟩ := ih hnext
      refine ⟨last, ?_, hlast⟩
      simp only [CallStack.answerAll, hanswer, ok_bind, hrest, hnext.pointer_eq]
      rfl

/-- What a stack does next, after requests that have left addresses in a list. -/
structure ActsAs (stack : CallStack) (saved : List UInt16) : Prop where
  depth : stack.pointer = saved.length
  pushes : saved.length < 16 → ∀ address, ∃ pushed,
    stack.push address = .ok (.ok (), pushed) ∧ pushed.pointer = saved.length + 1
  overflows : saved.length = 16 → ∀ address,
    stack.push address = .ok (.error .stackOverflow, stack)
  pops : ∀ address rest, saved = address :: rest → ∃ popped,
    stack.pop = .ok (.ok address, popped) ∧ popped.pointer = rest.length
  badReturn : saved = [] → stack.pop = .ok (.error .badReturn, stack)
  /-- With anything else in the frames above the pointer, all later replies are the same. -/
  hides : ∀ other : CallStack, stack.SameInUse other → ∀ later,
    (other.answerAll later).map Prod.fst = (stack.answerAll later).map Prod.fst

theorem Holds.actsAs (hholds : stack.Holds saved) : stack.ActsAs saved where
  depth := hholds.pointer_eq
  pushes := by
    intro hfree address
    obtain ⟨pushed, hpush, hpushed⟩ := hholds.push hfree address
    exact ⟨pushed, hpush, hpushed.pointer_eq⟩
  overflows := by
    intro hfull address
    exact push_of_full (hholds.pointer_eq.trans hfull) address
  pops := by
    rintro address rest rfl
    obtain ⟨popped, hpop, hpopped⟩ := hholds.pop
    exact ⟨popped, hpop, hpopped.pointer_eq⟩
  badReturn := by
    rintro rfl
    exact pop_of_none hholds.pointer_eq
  hides := by
    intro other hsame later
    obtain ⟨last, hlast, -⟩ := hholds.answerAll later
    obtain ⟨otherLast, hother, -⟩ := (hholds.of_same hsame).answerAll later
    rw [hlast, hother]
    rfl

/-- Whatever is pushed and popped, a new stack replies like a list with room for sixteen
addresses and is as deep as the list is long.  What is pushed comes back as it is, the most
recent address first; a push onto a full stack and a pop from an empty one fail and change
nothing; and what earlier pops have left above the pointer never shows. -/
theorem replies_are_those_of_list (requests : List Request) :
    ∃ stack, empty.answerAll requests = .ok ((listAnswerAll [] requests).1, stack) ∧
      stack.ActsAs (listAnswerAll [] requests).2 := by
  obtain ⟨stack, hanswer, hholds⟩ := holds_empty.answerAll requests
  exact ⟨stack, hanswer, hholds.actsAs⟩

/-- The second address takes the frame of the first. -/
example : (empty.answerAll [.pop, .push 0xFFFF, .pop, .push 0x1234, .pop, .pop]).toOption.map
    Prod.fst = some [(.error .badReturn, 0), (.ok none, 1), (.ok (some 0xFFFF), 0),
      (.ok none, 1), (.ok (some 0x1234), 0), (.error .badReturn, 0)] := by
  decide +kernel

end Chip8.Raw.CallStack
