import Mathlib.Data.Set.Function
import Chip8.Proofs.Raw.Words

/-!
# Words made of fields

The description of an instruction gives the digits of its word from the left to the right:
digits that belong to the instruction, and letters for its operands.  Each of these is a
field with room for so many values, and the word is the number whose digits the fields are.
Reading a word is the inverse of this: it yields an instruction if and only if the word is
the one assembled from that instruction, and then the operands fit their fields.  This is
what the masks and shifts of the reader have to get right, and all that bounds the operands
of a stored instruction.
-/

namespace Chip8.Raw

/-- A part of the word of an instruction, and what stands there. -/
inductive Field where
  /-- One digit that is the same in all words of the instruction. -/
  | digit (value : Nat)
  /-- `X` or `Y`, the digit of a register. -/
  | register (name : UInt8)
  /-- `N`, the digit of a height. -/
  | height (rows : UInt8)
  /-- `NN`, the two digits of a byte. -/
  | byte (value : UInt8)
  /-- `NNN`, the three digits of an address. -/
  | address (target : UInt16)

namespace Field

/-- How many values a field has room for. -/
def room : Field → Nat
  | .digit _ | .register _ | .height _ => 0x10
  | .byte _ => 0x100
  | .address _ => 0x1000

def value : Field → Nat
  | .digit value => value
  | .register name => name.toNat
  | .height rows => rows.toNat
  | .byte value => value.toNat
  | .address target => target.toNat

/-- The number that fields stand for, of which the first stands on the left. -/
def assemble (fields : List Field) : Nat :=
  fields.foldl (fun word field => field.room * word + field.value) 0

end Field

namespace Instruction

/-- The word of an instruction from the left to the right. -/
def fields : Instruction → List Field
  | .clearScreen => [.digit 0x0, .digit 0x0, .digit 0xE, .digit 0x0]
  | .returnToCaller => [.digit 0x0, .digit 0x0, .digit 0xE, .digit 0xE]
  | .jump target => [.digit 0x1, .address target]
  | .call target => [.digit 0x2, .address target]
  | .skipIfByte x byte => [.digit 0x3, .register x, .byte byte]
  | .skipUnlessByte x byte => [.digit 0x4, .register x, .byte byte]
  | .skipIfEqual x y => [.digit 0x5, .register x, .register y, .digit 0x0]
  | .setByte x byte => [.digit 0x6, .register x, .byte byte]
  | .addByte x byte => [.digit 0x7, .register x, .byte byte]
  | .copy x y => [.digit 0x8, .register x, .register y, .digit 0x0]
  | .or x y => [.digit 0x8, .register x, .register y, .digit 0x1]
  | .and x y => [.digit 0x8, .register x, .register y, .digit 0x2]
  | .xor x y => [.digit 0x8, .register x, .register y, .digit 0x3]
  | .add x y => [.digit 0x8, .register x, .register y, .digit 0x4]
  | .subtract x y => [.digit 0x8, .register x, .register y, .digit 0x5]
  | .shiftRight x y => [.digit 0x8, .register x, .register y, .digit 0x6]
  | .subtractFrom x y => [.digit 0x8, .register x, .register y, .digit 0x7]
  | .shiftLeft x y => [.digit 0x8, .register x, .register y, .digit 0xE]
  | .skipUnlessEqual x y => [.digit 0x9, .register x, .register y, .digit 0x0]
  | .setIndex target => [.digit 0xA, .address target]
  | .jumpByV0 base => [.digit 0xB, .address base]
  | .random x mask => [.digit 0xC, .register x, .byte mask]
  | .draw x y height => [.digit 0xD, .register x, .register y, .height height]
  | .skipIfHeld x => [.digit 0xE, .register x, .digit 0x9, .digit 0xE]
  | .skipUnlessHeld x => [.digit 0xE, .register x, .digit 0xA, .digit 0x1]
  | .readDelay x => [.digit 0xF, .register x, .digit 0x0, .digit 0x7]
  | .awaitKey x => [.digit 0xF, .register x, .digit 0x0, .digit 0xA]
  | .setDelay x => [.digit 0xF, .register x, .digit 0x1, .digit 0x5]
  | .setSound x => [.digit 0xF, .register x, .digit 0x1, .digit 0x8]
  | .addToIndex x => [.digit 0xF, .register x, .digit 0x1, .digit 0xE]
  | .locateGlyph x => [.digit 0xF, .register x, .digit 0x2, .digit 0x9]
  | .storeDigits x => [.digit 0xF, .register x, .digit 0x3, .digit 0x3]
  | .storeRegisters x => [.digit 0xF, .register x, .digit 0x5, .digit 0x5]
  | .loadRegisters x => [.digit 0xF, .register x, .digit 0x6, .digit 0x5]
  | .saveFlags x => [.digit 0xF, .register x, .digit 0x7, .digit 0x5]
  | .restoreFlags x => [.digit 0xF, .register x, .digit 0x8, .digit 0x5]

/-- The word of an instruction. -/
def encode (instruction : Instruction) : UInt16 :=
  UInt16.ofNat (Field.assemble instruction.fields)

/-- Each operand fits its field: registers and heights are below 16, and addresses are
below 4096. -/
def InRange (instruction : Instruction) : Prop :=
  ∀ field ∈ instruction.fields, field.value < field.room

end Instruction

/-! ## Shapes of words -/

namespace Field

open Chip8.Instruction (registerWord byteWord addressWord)

variable (lead : Nat) (x y : Register)

theorem assemble_registers (last : Nat) :
    assemble [.digit lead, .register (UInt8.ofNat x.val), .register (UInt8.ofNat y.val),
        .digit last]
      = registerWord lead x y last := by
  simp only [assemble, List.foldl_cons, List.foldl_nil, room, value, toNat_ofNat_digit,
    registerWord]
  omega

theorem assemble_height (height : Fin 16) :
    assemble [.digit lead, .register (UInt8.ofNat x.val), .register (UInt8.ofNat y.val),
        .height (UInt8.ofNat height.val)]
      = registerWord lead x y height := by
  simp only [assemble, List.foldl_cons, List.foldl_nil, room, value, toNat_ofNat_digit,
    registerWord]
  omega

theorem assemble_byte (byte : UInt8) :
    assemble [.digit lead, .register (UInt8.ofNat x.val), .byte byte]
      = byteWord lead x byte.toNat := by
  simp only [assemble, List.foldl_cons, List.foldl_nil, room, value, toNat_ofNat_digit, byteWord]
  omega

theorem assemble_digits (high low : Nat) :
    assemble [.digit lead, .register (UInt8.ofNat x.val), .digit high, .digit low]
      = byteWord lead x (0x10 * high + low) := by
  simp only [assemble, List.foldl_cons, List.foldl_nil, room, value, toNat_ofNat_digit, byteWord]
  omega

theorem assemble_address (address : Address) :
    assemble [.digit lead, .address (UInt16.ofNat address.val)] = addressWord lead address := by
  simp only [assemble, List.foldl_cons, List.foldl_nil, room, value, toNat_ofNat_address,
    addressWord]
  omega

end Field

/-! ## Instructions whose operands are in range -/

section InRange

/-- The fields of an instruction make up the same word as its digits. -/
theorem assemble_stored (instruction : Chip8.Instruction) :
    Field.assemble (Instruction.fields (stored instruction)) = instruction.encodeNat := by
  cases instruction
  case clearScreen | returnToCaller => rfl
  all_goals simp [stored, InstructionForm.map, Instruction.fields, Instruction.encodeNat,
    Field.assemble_registers, Field.assemble_height, Field.assemble_byte, Field.assemble_digits,
    Field.assemble_address]

theorem inRange_stored (instruction : Chip8.Instruction) :
    Instruction.InRange (stored instruction) := by
  have hbyte : ∀ byte : UInt8, byte.toNat < 0x100 := UInt8.toNat_lt
  cases instruction
  all_goals simp [stored, InstructionForm.map, Instruction.InRange, Instruction.fields,
    Field.value, Field.room, hbyte, -UInt8.toNat_ofNat', -UInt16.toNat_ofNat']

/-- The instruction on registers, addresses and heights that stored operands name. -/
def restored : Instruction → Chip8.Instruction :=
  InstructionForm.map (fun x => lastDigit x.toNat) addressOf fun height => lastDigit height.toNat

theorem ofNat_lastDigit {x : UInt8} (hx : x.toNat < 0x10) :
    UInt8.ofNat (lastDigit x.toNat).val = x := by
  have hdigit : (lastDigit x.toNat).val = x.toNat := Nat.mod_eq_of_lt hx
  rw [hdigit, UInt8.ofNat_toNat]

theorem ofNat_addressOf {target : UInt16} (htarget : target.toNat < 0x1000) :
    UInt16.ofNat (addressOf target).val = target := by
  have haddress : (addressOf target).val = target.toNat := Nat.mod_eq_of_lt htarget
  rw [haddress, UInt16.ofNat_toNat]

/-- An instruction whose operands are in range is stored as it is. -/
theorem stored_restored {instruction : Instruction} (hrange : instruction.InRange) :
    stored (restored instruction) = instruction := by
  cases instruction
  all_goals
    simp only [Instruction.InRange, Instruction.fields, List.forall_mem_cons, Field.value,
      Field.room] at hrange
    simp only [stored, restored, InstructionForm.map, ofNat_lastDigit, ofNat_addressOf, hrange]

/-- The digits of an instruction are no more than a word has. -/
theorem encodeNat_lt (instruction : Chip8.Instruction) : instruction.encodeNat < 0x10000 := by
  have hbyte : ∀ byte : UInt8, byte.toNat < 0x100 := UInt8.toNat_lt
  have hlead : instruction.encodeNat / 0x1000 < 0x10 := by
    cases instruction
    all_goals simp [Instruction.encodeNat, hbyte]
  omega

theorem toNat_encode_stored (instruction : Chip8.Instruction) :
    (Instruction.encode (stored instruction)).toNat = instruction.encodeNat := by
  rw [Instruction.encode, assemble_stored, UInt16.toNat_ofNat']
  exact Nat.mod_eq_of_lt (encodeNat_lt instruction)

end InRange

/-! ## Reading and assembling -/

variable {word : UInt16} {instruction : Instruction}

/-- A word that is assembled from an instruction is read as that instruction. -/
theorem decode_encode (hrange : instruction.InRange) :
    decode instruction.encode = some instruction := by
  rw [decode_eq_ofDigits, ← stored_restored hrange, toNat_encode_stored]
  exact ofDigits_encodeNat (restored instruction)

example : Instruction.encode (.draw 0x1 0x2 0xF) = 0xD12F := by
  decide

/-- A word that is read as an instruction is assembled from it, and the operands that were
cut out of it fit their fields. -/
theorem encode_of_decode (hdecode : decode word = some instruction) :
    instruction.InRange ∧ instruction.encode = word := by
  rw [decode_eq, Option.map_eq_some_iff] at hdecode
  obtain ⟨typed, htyped, rfl⟩ := hdecode
  refine ⟨inRange_stored typed, ?_⟩
  apply UInt16.toNat_inj.mp
  rw [toNat_encode_stored, Instruction.encodeNat_of_decode? htyped]

/-- Reading a word undoes assembling it: it yields an instruction if and only if the word is
assembled from this instruction and the operands fit their fields.  So a word stands for an
instruction if it fits the pattern of one, the words of different instructions differ, and
so do the instructions of different words. -/
theorem decode_inverts_encode :
    (∀ (word : UInt16) (instruction : Instruction),
      decode word = some instruction ↔ instruction.InRange ∧ instruction.encode = word) ∧
    (∀ word, (decode word).isSome ↔
      ∃ instruction : Instruction, instruction.InRange ∧ instruction.encode = word) ∧
    Set.InjOn Instruction.encode {instruction | instruction.InRange} ∧
    Set.InjOn decode {word | (decode word).isSome} := by
  have hiff : ∀ (word : UInt16) (instruction : Instruction),
      decode word = some instruction ↔ instruction.InRange ∧ instruction.encode = word := by
    intro word instruction
    constructor
    · exact encode_of_decode
    · rintro ⟨hrange, rfl⟩
      exact decode_encode hrange
  refine ⟨hiff, ?_, ?_, ?_⟩
  · intro word
    rw [Option.isSome_iff_exists]
    exact exists_congr (hiff word)
  · intro first hfirst second hsecond hsame
    have hread : some first = some second := by
      rw [← decode_encode hfirst, ← decode_encode hsecond, hsame]
    exact Option.some.inj hread
  · intro first hfirst second hsecond hsame
    obtain ⟨instruction, hinstruction⟩ := Option.isSome_iff_exists.mp hfirst
    rw [← ((hiff first instruction).mp hinstruction).2]
    exact ((hiff second instruction).mp (hsame ▸ hinstruction)).2

end Chip8.Raw
