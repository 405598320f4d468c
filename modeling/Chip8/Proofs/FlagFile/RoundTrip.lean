import Mathlib.Data.List.TakeWhile
import Mathlib.Order.Basic
import Chip8.FlagFile

/-!
# Flag files are read back

What is written to keep the flag registers is read back as the same flags.  A
byte is written in decimal, so the reader finds a whole number without leading
zeros that ends at the comma or the bracket behind it; the list of the bytes
follows by induction, and the object around it is always the same text.
-/

namespace Chip8.JsonText

/-! ## Digits -/

/-- A number above zero has no leading zero. -/
theorem head?_toDigits_ne (value : Nat) (hvalue : 0 < value) :
    (Nat.toDigits 10 value).head? ≠ some '0' := by
  induction value using Nat.strongRecOn with
  | _ value ih =>
      rw [Nat.toDigits_eq_if (by decide)]
      split
      · next hsmall =>
        intro hzero
        have hdigit : Nat.digitChar value = '0' := by simpa using hzero
        have hnone : value = 0 := by
          have hsub := Nat.toNat_digitChar_sub_48_of_lt_ten hsmall
          rw [hdigit] at hsub
          exact hsub.symm
        omega
      · next hlarge =>
        have hlead := ih (value / 10) (by omega) (by omega)
        rwa [List.head?_append, Option.or_of_isSome (by simp [List.isSome_head?])]

theorem le_ofDigitChars (digits : List Char) (value : Nat) :
    value ≤ Nat.ofDigitChars 10 digits value := by
  induction digits generalizing value with
  | nil => simp
  | cons digit rest ih =>
      rw [Nat.ofDigitChars_cons]
      exact le_trans (by omega) (ih (10 * value + (digit.toNat - '0'.toNat)))

/-- Digits of a number that fits are absorbed to the last. -/
theorem absorbDigits_eq {digits : List Char} {value : Nat}
    (hfits : Nat.ofDigitChars 10 digits value < UInt64.size) :
    absorbDigits value digits = (Nat.ofDigitChars 10 digits value, []) := by
  induction digits generalizing value with
  | nil => simp [absorbDigits]
  | cons digit rest ih =>
      rw [Nat.ofDigitChars_cons] at hfits ⊢
      have hnext := (le_ofDigitChars rest _).trans_lt hfits
      rw [absorbDigits]
      exact (if_pos hnext).trans (ih hfits)

theorem absorbDigits_toDigits {value : Nat} (hvalue : value < UInt64.size) :
    absorbDigits 0 (Nat.toDigits 10 value) = (value, []) := by
  have hsame : Nat.ofDigitChars 10 (Nat.toDigits 10 value) 0 = value := by simp
  rw [absorbDigits_eq (by rw [hsame]; exact hvalue), hsame]

theorem readUnsigned_toDigits {value : Nat} (hvalue : value < UInt64.size) {stop : Char}
    (hdigit : stop.isDigit = false) (hstop : stop ≠ '.' ∧ stop ≠ 'e' ∧ stop ≠ 'E')
    (rest : List Char) :
    readUnsigned (Nat.toDigits 10 value ++ stop :: rest) = .ok (.whole value, stop :: rest) := by
  obtain ⟨hpoint, hlower, hupper⟩ := hstop
  have hall : ∀ c ∈ Nat.toDigits 10 value, c.isDigit = true :=
    fun c hc => Nat.isDigit_of_mem_toDigits (by decide) (by decide) hc
  have htake : (Nat.toDigits 10 value ++ stop :: rest).takeWhile Char.isDigit
      = Nat.toDigits 10 value := by
    rw [List.takeWhile_append_of_pos hall, List.takeWhile_cons_of_neg (by simp [hdigit]),
      List.append_nil]
  have hdrop : (Nat.toDigits 10 value ++ stop :: rest).dropWhile Char.isDigit = stop :: rest := by
    rw [List.dropWhile_append_of_pos hall, List.dropWhile_cons_of_neg (by simp [hdigit])]
  unfold readUnsigned
  simp only [htake, hdrop]
  split
  · next hnone => exact absurd hnone Nat.toDigits_ne_nil
  · next second others hzero =>
    have hpositive : 0 < value := by
      by_contra hnone
      rw [Nat.eq_zero_of_not_pos hnone] at hzero
      simp at hzero
    have hhead := head?_toDigits_ne value hpositive
    rw [hzero] at hhead
    exact absurd rfl hhead
  · rw [absorbDigits_toDigits hvalue]
    split
    · next hsame => simp_all
    · next hsame => simp_all
    · next hsame => simp_all
    · rfl

/-- A digit is none of the characters that mean something else before a number. -/
theorem not_isDigit_of_mark {c : Char} (hdigit : c.isDigit = true) :
    isBlank c = false ∧ c ≠ '-' ∧ c ≠ ',' ∧ c ≠ ']' := by
  refine ⟨?_, ?_, ?_, ?_⟩
  · by_contra hblank
    simp only [isBlank, Bool.not_eq_false, Bool.or_eq_true, decide_eq_true_eq] at hblank
    rcases hblank with ((rfl | rfl) | rfl) | rfl
    all_goals exact absurd hdigit (by decide)
  all_goals
    rintro rfl
    exact absurd hdigit (by decide)

theorem exists_toDigits_eq_cons (value : Nat) :
    ∃ digit digits, Nat.toDigits 10 value = digit :: digits ∧ digit.isDigit = true := by
  cases hdigits : Nat.toDigits 10 value with
  | nil => exact absurd hdigits Nat.toDigits_ne_nil
  | cons digit digits =>
      exact ⟨digit, digits, rfl,
        Nat.isDigit_of_mem_toDigits (by decide) (by decide) (hdigits ▸ List.mem_cons_self)⟩

theorem readByte_toDigits (byte : UInt8) {stop : Char} (hstop : stop = ',' ∨ stop = ']')
    (rest : List Char) :
    readByte (Nat.toDigits 10 byte.toNat ++ stop :: rest) = .ok (byte, stop :: rest) := by
  have hlt : byte.toNat < 256 := byte.toNat_lt
  have hread : readUnsigned (Nat.toDigits 10 byte.toNat ++ stop :: rest)
      = .ok (.whole byte.toNat, stop :: rest) := by
    apply readUnsigned_toDigits (hlt.trans (by decide))
    · rcases hstop with rfl | rfl <;> rfl
    · rcases hstop with rfl | rfl <;> decide
  obtain ⟨digit, digits, hdigits, hdigit⟩ := exists_toDigits_eq_cons byte.toNat
  obtain ⟨hblank, hsign, _, _⟩ := not_isDigit_of_mark hdigit
  rw [hdigits, List.cons_append] at hread ⊢
  have hnumber : readNumber (digit :: (digits ++ stop :: rest))
      = .ok (.whole byte.toNat, stop :: rest) := by
    unfold readNumber
    split
    · next hminus => exact absurd (List.cons.inj hminus).1 hsign
    · exact hread
  simp [readByte, skipBlanks, hblank, hdigit, hnumber, hlt]

/-! ## Lists of bytes -/

/-- How the bytes of a list but the first are written. -/
def laterItems (bytes : List UInt8) : List Char :=
  bytes.flatMap fun byte => ',' :: Nat.toDigits 10 byte.toNat

/-- Whatever bytes come later, a number ends where it should. -/
theorem readByte_laterItems (byte : UInt8) (later : List UInt8) (rest : List Char) :
    readByte (Nat.toDigits 10 byte.toNat ++ (laterItems later ++ ']' :: rest))
      = .ok (byte, laterItems later ++ ']' :: rest) := by
  cases later with
  | nil => exact readByte_toDigits byte (.inr rfl) rest
  | cons next later => exact readByte_toDigits byte (.inl rfl) _

theorem skipBlanks_toDigits (value : Nat) (rest : List Char) :
    skipBlanks (Nat.toDigits 10 value ++ rest) = Nat.toDigits 10 value ++ rest := by
  obtain ⟨digit, digits, hdigits, hdigit⟩ := exists_toDigits_eq_cons value
  obtain ⟨hblank, _⟩ := not_isDigit_of_mark hdigit
  simp [hdigits, skipBlanks, hblank]

/-- The next item of a list starts behind the comma, if there has to be one. -/
theorem skipToItem_toDigits (value : Nat) (rest : List Char) :
    skipToItem true (Nat.toDigits 10 value ++ rest) = .ok (Nat.toDigits 10 value ++ rest) ∧
      skipToItem false (',' :: (Nat.toDigits 10 value ++ rest))
        = .ok (Nat.toDigits 10 value ++ rest) := by
  have hskip := skipBlanks_toDigits value rest
  have hcomma : ∀ text, skipBlanks (',' :: text) = ',' :: text := fun _ => rfl
  obtain ⟨digit, digits, hdigits, hdigit⟩ := exists_toDigits_eq_cons value
  obtain ⟨_, _, hnotComma, hnotBracket⟩ := not_isDigit_of_mark hdigit
  rw [hdigits, List.cons_append] at hskip ⊢
  refine ⟨?_, ?_⟩
  · simp only [skipToItem, hskip]
    split <;> simp_all
  · simp only [skipToItem, hcomma, Bool.false_eq_true, if_false, hskip]
    split <;> simp_all

theorem readItems_laterItems (later : List UInt8) (rest : List Char) :
    readItems readByte later.length false (laterItems later ++ ']' :: rest)
      = .ok (later, rest) := by
  induction later with
  | nil => rfl
  | cons byte later ih =>
      have htext : laterItems (byte :: later) ++ ']' :: rest
          = ',' :: (Nat.toDigits 10 byte.toNat ++ (laterItems later ++ ']' :: rest)) := by
        simp [laterItems]
      rw [htext, List.length_cons, readItems]
      simp only [(skipToItem_toDigits _ _).2, readByte_laterItems, ih]

/-- A list that is not empty is read back. -/
theorem readItems_toDigits (byte : UInt8) (later : List UInt8) (rest : List Char) :
    readItems readByte (later.length + 1) true
        (Nat.toDigits 10 byte.toNat ++ (laterItems later ++ ']' :: rest))
      = .ok (byte :: later, rest) := by
  rw [readItems]
  simp only [(skipToItem_toDigits _ _).1, readByte_laterItems, readItems_laterItems]

end Chip8.JsonText

namespace Chip8.FlagFile

open JsonText

/-! ## The whole file -/

theorem toList_commaSeparated (byte : UInt8) (later : List UInt8) :
    (commaSeparated (byte :: later)).toList
      = Nat.toDigits 10 byte.toNat ++ laterItems later := by
  induction later generalizing byte with
  | nil => simp [commaSeparated, laterItems]
  | cons next later ih => simp [commaSeparated, ih, laterItems]

/-- Reading the name of the only member. -/
theorem readString_memberName (rest : List Char) :
    readString true ('f' :: 'l' :: 'a' :: 'g' :: 's' :: '"' :: rest) = .ok (memberName, rest) := rfl

theorem littleEndian_ofPacked (packed : UInt64) :
    FlagRegisters.littleEndian (FlagRegisters.ofPacked packed).bytes.toList = packed.toNat := by
  have hlt : packed.toNat < 18446744073709551616 := packed.toNat_lt
  have hbytes : (FlagRegisters.ofPacked packed).bytes.toList
      = (List.range 8).map (FlagRegisters.byteOf packed) := rfl
  simp only [hbytes, List.range, List.range.loop, List.map, FlagRegisters.littleEndian,
    FlagRegisters.byteOf, UInt8.toNat_ofNat', Nat.shiftRight_eq_div_pow]
  omega

/-- The text of a list of eight bytes, from its opening bracket on. -/
theorem readFlags_items (byte : UInt8) {later : List UInt8} (hlength : later.length = 7)
    (rest : List Char) :
    readFlags ('[' :: (Nat.toDigits 10 byte.toNat ++ (laterItems later ++ ']' :: rest)))
      = .ok (byte :: later, rest) := by
  have hitems := readItems_toDigits byte later rest
  rwa [hlength] at hitems

/-- The only member of an object, and its closing brace. -/
theorem readMembers_flags {flags : List UInt8} {text : List Char} (fuel : Nat)
    (hflags : readFlags text = .ok (flags, ['\x7d'])) :
    readMembers (fuel + 2) true none
        ('"' :: 'f' :: 'l' :: 'a' :: 'g' :: 's' :: '"' :: ':' :: text) = .ok (flags, []) := by
  have hblanks : skipBlanks ('"' :: 'f' :: 'l' :: 'a' :: 'g' :: 's' :: '"' :: ':' :: text)
      = '"' :: 'f' :: 'l' :: 'a' :: 'g' :: 's' :: '"' :: ':' :: text := rfl
  have hname : skipToName true ('"' :: 'f' :: 'l' :: 'a' :: 'g' :: 's' :: '"' :: ':' :: text)
      = .ok ('f' :: 'l' :: 'a' :: 'g' :: 's' :: '"' :: ':' :: text) := rfl
  have hcolon : skipMark ':' (':' :: text) = .ok text := rfl
  have hclosing : readMembers (fuel + 1) false (some flags) ['\x7d'] = .ok (flags, []) := rfl
  unfold readMembers
  simp [hblanks, hname, readString_memberName, hcolon, hflags, hclosing]

theorem readFile_items (byte : UInt8) {later : List UInt8} (hlength : later.length = 7) :
    readFile ("\x7b\"flags\":[".toList ++ (Nat.toDigits 10 byte.toNat ++ laterItems later)
        ++ "]\x7d".toList) = .ok (byte :: later, []) := by
  have hflags := readFlags_items byte hlength ['\x7d']
  have hopening : "\x7b\"flags\":[".toList
      = '\x7b' :: '"' :: 'f' :: 'l' :: 'a' :: 'g' :: 's' :: '"' :: ':' :: ['['] := rfl
  have hclosing : "]\x7d".toList = ']' :: ['\x7d'] := rfl
  rw [hopening, hclosing]
  simp only [List.cons_append, List.nil_append, List.append_assoc]
  have hblanks : ∀ text, skipBlanks ('\x7b' :: text) = '\x7b' :: text := fun _ => rfl
  rw [readFile, hblanks]
  exact readMembers_flags _ hflags

/-- Whatever the flags are, the text that keeps them stands for them. -/
theorem parse_render (packed : UInt64) : parse (render packed) = .ok packed := by
  obtain ⟨byte, later, hbytes⟩ :
      ∃ byte later, (FlagRegisters.ofPacked packed).bytes.toList = byte :: later :=
    ⟨_, _, rfl⟩
  have hlength : later.length = 7 := by
    have hall := congrArg List.length hbytes
    rw [Vector.length_toList, List.length_cons] at hall
    omega
  have hread : readFile (render packed).toList = .ok (byte :: later, []) := by
    rw [render, String.toList_append, String.toList_append, hbytes, toList_commaSeparated]
    exact readFile_items byte hlength
  have hvalue : FlagRegisters.littleEndian (byte :: later) = packed.toNat := by
    rw [← hbytes, littleEndian_ofPacked]
  rw [parse, hread]
  simp [skipBlanks, hvalue]

end Chip8.FlagFile
