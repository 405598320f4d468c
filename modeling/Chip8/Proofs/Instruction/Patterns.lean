import Chip8.Instruction.Encoding

/-!
# Words and the patterns they fit

A word that `decode?` takes for an instruction is the word that `encodeNat`
makes of it, so its four digits are those of the pattern.  Everything else that
reads words is compared with `decode?` through these digits.
-/

namespace Chip8.Instruction

/-! ## Digits of assembled words -/

section Digits

variable (lead : Nat) (x y : Register)

@[simp] theorem registerWord_lead {last : Nat} (hlast : last < 0x10) :
    registerWord lead x y last / 0x1000 = lead := by
  unfold registerWord
  omega

@[simp] theorem registerWord_x {last : Nat} (hlast : last < 0x10) :
    registerWord lead x y last / 0x100 % 0x10 = x := by
  unfold registerWord
  omega

@[simp] theorem registerWord_y {last : Nat} (hlast : last < 0x10) :
    registerWord lead x y last / 0x10 % 0x10 = y := by
  unfold registerWord
  omega

@[simp] theorem registerWord_last {last : Nat} (hlast : last < 0x10) :
    registerWord lead x y last % 0x10 = last := by
  unfold registerWord
  omega

@[simp] theorem byteWord_lead {byte : Nat} (hbyte : byte < 0x100) :
    byteWord lead x byte / 0x1000 = lead := by
  unfold byteWord
  omega

@[simp] theorem byteWord_x {byte : Nat} (hbyte : byte < 0x100) :
    byteWord lead x byte / 0x100 % 0x10 = x := by
  unfold byteWord
  omega

@[simp] theorem byteWord_y {byte : Nat} (hbyte : byte < 0x100) :
    byteWord lead x byte / 0x10 % 0x10 = byte / 0x10 := by
  unfold byteWord
  omega

@[simp] theorem byteWord_last (byte : Nat) :
    byteWord lead x byte % 0x10 = byte % 0x10 := by
  unfold byteWord
  omega

@[simp] theorem byteWord_low {byte : Nat} (hbyte : byte < 0x100) :
    byteWord lead x byte % 0x100 = byte := by
  unfold byteWord
  omega

@[simp] theorem addressWord_lead (address : Address) :
    addressWord lead address / 0x1000 = lead := by
  unfold addressWord
  omega

@[simp] theorem addressWord_low (address : Address) :
    addressWord lead address % 0x1000 = address := by
  unfold addressWord
  omega

end Digits

/-! ## Words that tell the instruction -/

theorem decode?_call {word : UInt16} (hlead : word.toNat / 0x1000 = 0x2) :
    decode? word = some (.call (Address.ofNat word.toNat)) := by
  simp [decode?, hlead]

theorem decode?_return : decode? 0x00EE = some .returnToCaller := rfl

theorem decode?_clear : decode? 0x00E0 = some .clearScreen := rfl

theorem decode?_draw {word : UInt16} (hlead : word.toNat / 0x1000 = 0xD) :
    decode? word = some (.draw (lastDigit (word.toNat / 0x100)) (lastDigit (word.toNat / 0x10))
      (lastDigit word.toNat)) := by
  simp [decode?, hlead]

theorem decode?_random {word : UInt16} (hlead : word.toNat / 0x1000 = 0xC) :
    decode? word = some (.random (lastDigit (word.toNat / 0x100)) word.toUInt8) := by
  simp [decode?, hlead]

theorem decode?_arithmetic {word : UInt16} (hlead : word.toNat / 0x1000 = 0x8) :
    decode? word
      = ofArithmeticDigit? (lastDigit (word.toNat / 0x100)) (lastDigit (word.toNat / 0x10))
          (word.toNat % 0x10) := by
  simp [decode?, hlead]

theorem decode?_transfer {word : UInt16} (hlead : word.toNat / 0x1000 = 0xF) :
    decode? word
      = ofTransferByte? (lastDigit (word.toNat / 0x100)) (word.toNat % 0x100) := by
  simp [decode?, hlead]

/-! ## Decoding undoes encoding -/

private theorem encodeNat_of_ofArithmeticDigit? {x y : Register} {digit : Nat}
    {instruction : Instruction} (h : ofArithmeticDigit? x y digit = some instruction) :
    instruction.encodeNat = registerWord 0x8 x y digit := by
  unfold ofArithmeticDigit? at h
  split at h <;> cases h <;> rfl

private theorem encodeNat_of_ofKeyByte? {x : Register} {byte : Nat} {instruction : Instruction}
    (h : ofKeyByte? x byte = some instruction) :
    instruction.encodeNat = byteWord 0xE x byte := by
  unfold ofKeyByte? at h
  split at h <;> cases h <;> rfl

private theorem encodeNat_of_ofTransferByte? {x : Register} {byte : Nat}
    {instruction : Instruction} (h : ofTransferByte? x byte = some instruction) :
    instruction.encodeNat = byteWord 0xF x byte := by
  unfold ofTransferByte? at h
  split at h <;> cases h <;> rfl

/-- A word that stands for an instruction is the word of that instruction. -/
theorem encodeNat_of_decode? {word : UInt16} {instruction : Instruction}
    (hdecode : decode? word = some instruction) : instruction.encodeNat = word.toNat := by
  have hword : word.toNat < 0x10000 := word.toNat_lt
  have hregisters : ∀ lead, word.toNat / 0x1000 = lead →
      registerWord lead (lastDigit (word.toNat / 0x100)) (lastDigit (word.toNat / 0x10))
        (word.toNat % 0x10) = word.toNat := by
    intro lead hlead
    simp only [registerWord, lastDigit, Fin.val_ofNat]
    omega
  have hbytes : ∀ lead, word.toNat / 0x1000 = lead →
      byteWord lead (lastDigit (word.toNat / 0x100)) (word.toNat % 0x100) = word.toNat := by
    intro lead hlead
    simp only [byteWord, lastDigit, Fin.val_ofNat]
    omega
  have haddresses : ∀ lead, word.toNat / 0x1000 = lead →
      addressWord lead (Address.ofNat word.toNat) = word.toNat := by
    intro lead hlead
    simp only [addressWord, Address.ofNat, Fin.val_ofNat]
    omega
  have hbyte : (UInt8.ofNat word.toNat).toNat = word.toNat % 0x100 := UInt8.toNat_ofNat'
  unfold decode? at hdecode
  simp only at hdecode
  -- one case for each leading digit; some families have a second choice
  split at hdecode
  case h_1 =>
    split at hdecode
    case isTrue hclear =>
      cases hdecode
      exact hclear.symm
    case isFalse =>
      split at hdecode
      case isTrue hreturn =>
        cases hdecode
        exact hreturn.symm
      case isFalse => contradiction
  case h_6 hlead | h_10 hlead =>
    split at hdecode
    case isTrue hlast =>
      cases hdecode
      simpa [encodeNat, hlast] using hregisters _ hlead
    case isFalse => contradiction
  case h_9 hlead =>
    exact (encodeNat_of_ofArithmeticDigit? hdecode).trans (hregisters _ hlead)
  case h_14 hlead =>
    cases hdecode
    simpa [encodeNat, lastDigit] using hregisters _ hlead
  case h_15 hlead => exact (encodeNat_of_ofKeyByte? hdecode).trans (hbytes _ hlead)
  case h_16 hlead => exact (encodeNat_of_ofTransferByte? hdecode).trans (hbytes _ hlead)
  case h_17 => contradiction
  case h_2 hlead | h_3 hlead | h_11 hlead | h_12 hlead =>
    cases hdecode
    exact haddresses _ hlead
  case h_4 hlead | h_5 hlead | h_7 hlead | h_8 hlead | h_13 hlead =>
    cases hdecode
    simpa [encodeNat, hbyte] using hbytes _ hlead

end Chip8.Instruction
