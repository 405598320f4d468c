import Chip8.Proofs.Instruction.Patterns
import Chip8.Raw.View

/-!
# Words that are cut into digits

Masks and shifts on stored words are division and remainder.  With this a
stored machine takes the same words for instructions as `decode?` does, and the
operands it cuts out of them are in range.
-/

namespace Chip8.Raw

/-! ## Masks -/

@[simp] theorem toNat_and_addressMask (word : UInt16) :
    (word &&& addressMask).toNat = word.toNat % 4096 := by
  rw [UInt16.toNat_and]
  exact Nat.and_two_pow_sub_one_eq_mod word.toNat 12

theorem toNat_and_addressMask_lt (word : UInt16) : (word &&& addressMask).toNat < 4096 := by
  rw [toNat_and_addressMask]
  exact Nat.mod_lt _ (by decide)

@[simp] theorem toNat_and_lowNibble (byte : UInt8) :
    (byte &&& 0x0F).toNat = byte.toNat % 16 := by
  rw [UInt8.toNat_and]
  exact Nat.and_two_pow_sub_one_eq_mod byte.toNat 4

@[simp] theorem toNat_wordBits (word : UInt16) :
    (word &&& 0x0FFF).toNat = word.toNat % 0x1000 :=
  toNat_and_addressMask word

/-! ## Digits -/

/-- A digit is what is left of a word after a mask and a shift. -/
private theorem toNat_digit (word mask places : UInt16) (hplaces : places.toNat < 16)
    (hmask : mask.toNat >>> places.toNat = 0xF) :
    ((word &&& mask) >>> places).toUInt8.toNat = word.toNat >>> places.toNat % 0x10 := by
  have hdigit : ((word &&& mask) >>> places).toNat = word.toNat >>> places.toNat % 0x10 := by
    rw [UInt16.toNat_shiftRight, UInt16.toNat_and, Nat.mod_eq_of_lt hplaces,
      Nat.shiftRight_and_distrib, hmask]
    exact Nat.and_two_pow_sub_one_eq_mod _ 4
  rw [UInt16.toNat_toUInt8, hdigit]
  omega

theorem toNat_leadDigit (word : UInt16) :
    ((word &&& 0xF000) >>> 12).toUInt8.toNat = word.toNat / 0x1000 := by
  have hword : word.toNat < 0x10000 := word.toNat_lt
  rw [toNat_digit word 0xF000 12 (by decide) (by decide)]
  show word.toNat >>> 12 % 0x10 = word.toNat / 0x1000
  rw [Nat.shiftRight_eq_div_pow]
  omega

theorem toNat_xDigit (word : UInt16) :
    ((word &&& 0x0F00) >>> 8).toUInt8.toNat = word.toNat / 0x100 % 0x10 := by
  rw [toNat_digit word 0x0F00 8 (by decide) (by decide)]
  exact congrArg (· % 0x10) (Nat.shiftRight_eq_div_pow word.toNat 8)

theorem toNat_yDigit (word : UInt16) :
    ((word &&& 0x00F0) >>> 4).toUInt8.toNat = word.toNat / 0x10 % 0x10 := by
  rw [toNat_digit word 0x00F0 4 (by decide) (by decide)]
  exact congrArg (· % 0x10) (Nat.shiftRight_eq_div_pow word.toNat 4)

theorem toNat_lastDigit (word : UInt16) :
    (word &&& 0x000F).toUInt8.toNat = word.toNat % 0x10 := by
  have hdigit : (word &&& 0x000F).toNat = word.toNat % 0x10 := by
    rw [UInt16.toNat_and]
    exact Nat.and_two_pow_sub_one_eq_mod word.toNat 4
  rw [UInt16.toNat_toUInt8, hdigit]
  omega

theorem toNat_lowByte (word : UInt16) :
    (word &&& 0x00FF).toUInt8.toNat = word.toNat % 0x100 := by
  have hbyte : (word &&& 0x00FF).toNat = word.toNat % 0x100 := by
    rw [UInt16.toNat_and]
    exact Nat.and_two_pow_sub_one_eq_mod word.toNat 8
  rw [UInt16.toNat_toUInt8, hbyte]
  omega

/-- A byte has room for a digit, and a word for an address. -/
@[simp] theorem toNat_ofNat_digit (x : Fin 16) : (UInt8.ofNat x.val).toNat = x.val := by
  rw [UInt8.toNat_ofNat']
  omega

@[simp] theorem toNat_ofNat_address (address : Address) :
    (UInt16.ofNat address.val).toNat = address.val := by
  rw [UInt16.toNat_ofNat']
  omega

/-! ## Stored instructions -/

/-- An instruction with its operands in bytes and words. -/
def stored : Chip8.Instruction → Instruction :=
  InstructionForm.map (fun x => UInt8.ofNat x.val) (fun address => UInt16.ofNat address.val)
    (fun height => UInt8.ofNat height.val)

/-- What is cut out of a word are the digits of its number. -/
theorem decode_eq_ofDigits (word : UInt16) :
    decode word = ofDigits (UInt8.ofNat (word.toNat / 0x1000))
      (UInt8.ofNat (word.toNat / 0x100 % 0x10)) (UInt8.ofNat (word.toNat / 0x10 % 0x10))
      (UInt8.ofNat (word.toNat % 0x10)) (UInt8.ofNat (word.toNat % 0x100))
      (UInt16.ofNat (word.toNat % 0x1000)) := by
  rw [← toNat_leadDigit, ← toNat_xDigit, ← toNat_yDigit, ← toNat_lastDigit, ← toNat_lowByte,
    ← toNat_wordBits]
  simp only [UInt8.ofNat_toNat, UInt16.ofNat_toNat]
  rfl

/-- The digits of the word of an instruction give the instruction back. -/
theorem ofDigits_encodeNat (instruction : Chip8.Instruction) :
    ofDigits (UInt8.ofNat (instruction.encodeNat / 0x1000))
      (UInt8.ofNat (instruction.encodeNat / 0x100 % 0x10))
      (UInt8.ofNat (instruction.encodeNat / 0x10 % 0x10))
      (UInt8.ofNat (instruction.encodeNat % 0x10)) (UInt8.ofNat (instruction.encodeNat % 0x100))
      (UInt16.ofNat (instruction.encodeNat % 0x1000)) = some (stored instruction) := by
  have hbyte : ∀ byte : UInt8, byte.toNat < 0x100 := UInt8.toNat_lt
  cases instruction
  all_goals simp [Instruction.encodeNat, ofDigits, stored, InstructionForm.map, hbyte]

/-- A stored machine takes the same words for instructions, and its operands are
those of the instruction. -/
theorem decode_eq (word : UInt16) : decode word = (Instruction.decode? word).map stored := by
  cases hdecode : Instruction.decode? word with
  | some instruction =>
      rw [decode_eq_ofDigits, ← Instruction.encodeNat_of_decode? hdecode]
      exact ofDigits_encodeNat instruction
  | none =>
      have hlow : word.toNat % 0x100 = 0x10 * (word.toNat / 0x10 % 0x10) + word.toNat % 0x10 := by
        omega
      unfold decode ofDigits
      rw [toNat_leadDigit, toNat_xDigit, toNat_yDigit, toNat_lastDigit]
      split
      case h_1 =>
        have hword : word.toNat = 0x00E0 := by omega
        simp [Instruction.decode?, hword] at hdecode
      case h_2 =>
        have hword : word.toNat = 0x00EE := by omega
        simp [Instruction.decode?, hword] at hdecode
      case h_37 => rfl
      -- any other row has a leading digit and a low byte that `decode?` accepts
      all_goals
        simp_all [Instruction.decode?, Instruction.ofArithmeticDigit?, Instruction.ofKeyByte?,
          Instruction.ofTransferByte?]

end Chip8.Raw
