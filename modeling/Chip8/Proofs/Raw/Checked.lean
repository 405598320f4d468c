import Mathlib.Data.List.GetD
import Mathlib.Data.Nat.Bitwise
import Chip8.Raw.Checked

/-!
# Checks that hold

When a checked access lies in its array, or a checked sum in its word, the check
can be forgotten.
-/

namespace Chip8.Raw

/-! ## Going on -/

section Going

variable {First Second : Type}

@[simp] theorem ok_bind (value : First) (next : First → Checked Second) :
    (Except.ok value >>= next) = next value := rfl

@[simp] theorem pure_eq_ok (value : First) : (pure value : Checked First) = .ok value := rfl

/-- A computation that goes on after a first part yields something if both do. -/
theorem bind_eq_ok {first : Checked First} {next : First → Checked Second} {result : Second} :
    first >>= next = .ok result ↔ ∃ value, first = .ok value ∧ next value = .ok result := by
  cases first with
  | error crash => exact ⟨nofun, fun ⟨_, hfirst, _⟩ => nomatch hfirst⟩
  | ok value => simp

end Going

/-! ## Running -/

section Running

variable {Error Problem First Second : Type}

/-- Whether a computation yields something of a kind can be found out by running it. -/
instance decidableYields {holds : First → Prop} [DecidablePred holds]
    (attempt : Except Error First) : Decidable (∃ value, attempt = .ok value ∧ holds value) :=
  match attempt with
  | .error _ => isFalse (by simp)
  | .ok value => decidable_of_iff (holds value) (by simp)

instance decidableSucceeds {holds : First → Prop} [DecidablePred holds]
    (attempt : Except Error (Except Problem First)) :
    Decidable (∃ value, attempt = .ok (.ok value) ∧ holds value) :=
  match attempt with
  | .error _ => isFalse (by simp)
  | .ok (.error _) => isFalse (by simp)
  | .ok (.ok value) => decidable_of_iff (holds value) (by simp)

instance decidableYieldsPair {holds : First → Second → Prop}
    [∀ first, DecidablePred (holds first)]
    (attempt : Except Error (First × Second)) :
    Decidable (∃ first second, attempt = .ok (first, second) ∧ holds first second) :=
  match attempt with
  | .error _ => isFalse (by simp)
  | .ok (first, second) => decidable_of_iff (holds first second) (by simp)

end Running

variable {Entry : Type} {size : Nat}

/-! ## Arrays -/

theorem entryAt_eq (array : Vector Entry size) {index : Nat} (hindex : index < size) :
    entryAt array index = .ok array[index] :=
  dif_pos hindex

theorem replaceAt_eq (array : Vector Entry size) {index : Nat} (entry : Entry)
    (hindex : index < size) : replaceAt array index entry = .ok (array.set index entry) :=
  dif_pos hindex

theorem rangeOf_zero (array : Vector Entry size) {stop : Nat} (hstop : stop ≤ size) :
    rangeOf array 0 stop = .ok (array.toList.take stop) :=
  if_pos ⟨Nat.zero_le stop, hstop⟩

theorem copyOnto_eq {target source : List Entry} (hlength : target.length = source.length) :
    copyOnto target source = .ok source :=
  if_pos hlength

/-- The entries of a list of which a range was replaced. -/
theorem getElem?_splice (list entries : List Entry) {start index : Nat}
    (hrange : start + entries.length ≤ list.length) (hindex : index < list.length) :
    (list.take start ++ entries ++ list.drop (start + entries.length))[index]?
      = some (if start ≤ index then entries.getD (index - start) list[index]
          else list[index]) := by
  have hstart : (list.take start).length = start := List.length_take_of_le (by omega)
  rw [List.append_assoc]
  -- the index lies before the range, in it or behind it
  by_cases hbefore : index < start
  · rw [List.getElem?_append_left (by omega), if_neg (by omega),
      List.getElem?_take_of_lt hbefore, List.getElem?_eq_getElem hindex]
  · rw [List.getElem?_append_right (by omega), if_pos (by omega), hstart]
    by_cases hinside : index - start < entries.length
    · rw [List.getElem?_append_left hinside, List.getElem?_eq_getElem hinside,
        List.getD_eq_getElem entries _ hinside]
    · rw [List.getElem?_append_right (by omega), List.getElem?_drop,
        List.getD_eq_default _ _ (by omega)]
      have hplace : start + entries.length + (index - start - entries.length) = index := by omega
      rw [hplace, List.getElem?_eq_getElem hindex]

/-- Entries that fit their range stand there afterwards; the others stay. -/
theorem replaceRange_eq (array : Vector Entry size) (start : Nat) (entries : List Entry)
    (hrange : start + entries.length ≤ size) :
    replaceRange array start (start + entries.length) entries = .ok (Vector.ofFn fun index =>
      if start ≤ index.val then entries.getD (index.val - start) array[index]
      else array[index]) := by
  have hfits : start ≤ start + entries.length ∧ start + entries.length ≤ size := by omega
  have hlength : entries.length = start + entries.length - start := by omega
  have hsize : array.toList.length = size := array.length_toList
  rw [replaceRange, dif_pos hfits, dif_pos hlength]
  congr 1
  apply Vector.ext
  intro index hindex
  have hentry := getElem?_splice array.toList entries (hsize ▸ hrange) (hsize ▸ hindex)
  rw [List.getElem?_eq_some_iff] at hentry
  obtain ⟨_, hentry⟩ := hentry
  simpa using hentry

/-! ## Words -/

theorem asSize_eq {number : Nat} (hnumber : number < UInt64.size) : asSize number = .ok number :=
  if_pos hnumber

theorem asWord_eq {number : Nat} (hnumber : number < UInt16.size) :
    asWord number = .ok (UInt16.ofNat number) :=
  if_pos hnumber

theorem oneLess_eq {number : Nat} (hnumber : 0 < number) : oneLess number = .ok (number - 1) :=
  if_pos hnumber

theorem byteBit_eq {place : Nat} (hplace : place < 8) :
    byteBit place = .ok (1 <<< UInt8.ofNat place) :=
  if_pos hplace

theorem byteBitFromTop_eq {place : Nat} (hplace : place < 8) :
    byteBitFromTop place = .ok (0x80 >>> UInt8.ofNat place) :=
  if_pos hplace

theorem wordBit_eq {place : Nat} (hplace : place < 16) :
    wordBit place = .ok (1 <<< UInt16.ofNat place) :=
  if_pos hplace

/-! ## Single bits -/

/-- Masking a number with one bit leaves something if the number has that bit. -/
theorem and_one_shiftLeft_ne_zero (number place : Nat) :
    number &&& 1 <<< place ≠ 0 ↔ number.testBit place = true := by
  rw [Nat.one_shiftLeft, Nat.and_two_pow, Ne, Nat.mul_eq_zero]
  cases number.testBit place with
  | false => simp
  | true => simp

theorem one_shiftLeft_lt {place size : Nat} (hplace : place < size) : 1 <<< place < 1 <<< size := by
  rw [Nat.one_shiftLeft, Nat.one_shiftLeft]
  exact Nat.pow_lt_pow_right (by decide) hplace

end Chip8.Raw
