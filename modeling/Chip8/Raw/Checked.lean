/-!
# Checked words and arrays

A stored machine consists of words of fixed width and of arrays of fixed
length.  An index outside an array, a range that does not lie in one, or a sum
that does not fit its word would end the whole program around the machine, not
only the program that the machine runs.  Such an end is a `Crash` here, so that
one can say, and prove, that there is none.
-/

namespace Chip8.Raw

/-- What would end the program around the machine. -/
inductive Crash where
  /-- An index at or past the end of an array. -/
  | badIndex
  /-- A range that does not lie in its array. -/
  | badRange
  /-- Entries copied onto more or fewer others. -/
  | unequalLengths
  /-- A sum, a difference or a shift that does not fit its word. -/
  | overflow
  deriving DecidableEq

/-- What a computation on stored words yields, unless it crashes. -/
abbrev Checked (Result : Type) := Except Crash Result

variable {Entry : Type} {size : Nat}

/-! ## Arrays -/

/-- The entry at an index. -/
def entryAt (array : Vector Entry size) (index : Nat) : Checked Entry :=
  if hindex : index < size then .ok array[index] else .error .badIndex

/-- The array with another entry at an index. -/
def replaceAt (array : Vector Entry size) (index : Nat) (entry : Entry) :
    Checked (Vector Entry size) :=
  if hindex : index < size then .ok (array.set index entry) else .error .badIndex

/-- The entries of a range. -/
def rangeOf (array : Vector Entry size) (start stop : Nat) : Checked (List Entry) :=
  if start ≤ stop ∧ stop ≤ size then .ok ((array.toList.take stop).drop start)
  else .error .badRange

/-- The array with other entries in a range, which must be as many as it holds. -/
def replaceRange (array : Vector Entry size) (start stop : Nat) (entries : List Entry) :
    Checked (Vector Entry size) :=
  if hrange : start ≤ stop ∧ stop ≤ size then
    if hlength : entries.length = stop - start then
      .ok ⟨(array.toList.take start ++ entries ++ array.toList.drop stop).toArray, by
        simp only [List.size_toArray, List.length_append, List.length_take, List.length_drop,
          Vector.length_toList]
        omega⟩
    else
      .error .unequalLengths
  else
    .error .badRange

/-- Entries copied onto as many others. -/
def copyOnto (target source : List Entry) : Checked (List Entry) :=
  if target.length = source.length then .ok source else .error .unequalLengths

/-! ## Words -/

/-- A number as a size or an index, for which there are 64 bits. -/
def asSize (number : Nat) : Checked Nat :=
  if number < UInt64.size then .ok number else .error .overflow

/-- A number as a word of 16 bits. -/
def asWord (number : Nat) : Checked UInt16 :=
  if number < UInt16.size then .ok (UInt16.ofNat number) else .error .overflow

/-- One less, which no size below zero is. -/
def oneLess (number : Nat) : Checked Nat :=
  if 0 < number then .ok (number - 1) else .error .overflow

/-- The bit of a byte at a place, counted from the low end. -/
def byteBit (place : Nat) : Checked UInt8 :=
  if place < 8 then .ok (1 <<< UInt8.ofNat place) else .error .overflow

/-- The bit of a byte at a place, counted from the high end. -/
def byteBitFromTop (place : Nat) : Checked UInt8 :=
  if place < 8 then .ok (0x80 >>> UInt8.ofNat place) else .error .overflow

/-- The bit of a word of 16 bits at a place, counted from the low end. -/
def wordBit (place : Nat) : Checked UInt16 :=
  if place < 16 then .ok (1 <<< UInt16.ofNat place) else .error .overflow

/-- How many of the low bits of a word are zero. -/
def trailingZeros (word : UInt16) : Nat :=
  ((List.range 16).find? fun place => word.toNat.testBit place).getD 16

end Chip8.Raw
