import Chip8.Instruction

/-!
# Words and instructions

`Instruction.encode` fills the operands into the pattern of an instruction,
and `Instruction.decode?` reads a word.  A word that fits no pattern is no
instruction, and no word fits two.
-/

namespace Chip8.Instruction

/-! ## From instructions to words -/

/-- A word made of a leading digit, two register digits and a last digit. -/
def registerWord (lead : Nat) (x y : Register) (last : Nat) : Nat :=
  0x1000 * lead + 0x100 * x + 0x10 * y + last

/-- A word made of a leading digit, a register digit and a byte. -/
def byteWord (lead : Nat) (x : Register) (byte : Nat) : Nat :=
  0x1000 * lead + 0x100 * x + byte

/-- A word made of a leading digit and an address. -/
def addressWord (lead : Nat) (address : Address) : Nat :=
  0x1000 * lead + address

/-- The number whose hexadecimal digits are those of the pattern. -/
def encodeNat : Instruction → Nat
  | .clearScreen => 0x00E0
  | .returnToCaller => 0x00EE
  | .jump target => addressWord 0x1 target
  | .call target => addressWord 0x2 target
  | .skipIfByte x byte => byteWord 0x3 x byte.toNat
  | .skipUnlessByte x byte => byteWord 0x4 x byte.toNat
  | .skipIfEqual x y => registerWord 0x5 x y 0x0
  | .setByte x byte => byteWord 0x6 x byte.toNat
  | .addByte x byte => byteWord 0x7 x byte.toNat
  | .copy x y => registerWord 0x8 x y 0x0
  | .or x y => registerWord 0x8 x y 0x1
  | .and x y => registerWord 0x8 x y 0x2
  | .xor x y => registerWord 0x8 x y 0x3
  | .add x y => registerWord 0x8 x y 0x4
  | .subtract x y => registerWord 0x8 x y 0x5
  | .shiftRight x y => registerWord 0x8 x y 0x6
  | .subtractFrom x y => registerWord 0x8 x y 0x7
  | .shiftLeft x y => registerWord 0x8 x y 0xE
  | .skipUnlessEqual x y => registerWord 0x9 x y 0x0
  | .setIndex target => addressWord 0xA target
  | .jumpByV0 base => addressWord 0xB base
  | .random x mask => byteWord 0xC x mask.toNat
  | .draw x y height => registerWord 0xD x y height
  | .skipIfHeld x => byteWord 0xE x 0x9E
  | .skipUnlessHeld x => byteWord 0xE x 0xA1
  | .readDelay x => byteWord 0xF x 0x07
  | .awaitKey x => byteWord 0xF x 0x0A
  | .setDelay x => byteWord 0xF x 0x15
  | .setSound x => byteWord 0xF x 0x18
  | .addToIndex x => byteWord 0xF x 0x1E
  | .locateGlyph x => byteWord 0xF x 0x29
  | .storeDigits x => byteWord 0xF x 0x33
  | .storeRegisters x => byteWord 0xF x 0x55
  | .loadRegisters x => byteWord 0xF x 0x65
  | .saveFlags x => byteWord 0xF x 0x75
  | .restoreFlags x => byteWord 0xF x 0x85

def encode (instruction : Instruction) : UInt16 :=
  UInt16.ofNat instruction.encodeNat

/-! ## From words to instructions -/

/-- The instructions on two registers that the last digit tells apart. -/
def ofArithmeticDigit? (x y : Register) : Nat → Option Instruction
  | 0x0 => some (.copy x y)
  | 0x1 => some (.or x y)
  | 0x2 => some (.and x y)
  | 0x3 => some (.xor x y)
  | 0x4 => some (.add x y)
  | 0x5 => some (.subtract x y)
  | 0x6 => some (.shiftRight x y)
  | 0x7 => some (.subtractFrom x y)
  | 0xE => some (.shiftLeft x y)
  | _ => none

/-- The instructions on keys that the low byte tells apart. -/
def ofKeyByte? (x : Register) : Nat → Option Instruction
  | 0x9E => some (.skipIfHeld x)
  | 0xA1 => some (.skipUnlessHeld x)
  | _ => none

/-- The instructions on one register that the low byte tells apart. -/
def ofTransferByte? (x : Register) : Nat → Option Instruction
  | 0x07 => some (.readDelay x)
  | 0x0A => some (.awaitKey x)
  | 0x15 => some (.setDelay x)
  | 0x18 => some (.setSound x)
  | 0x1E => some (.addToIndex x)
  | 0x29 => some (.locateGlyph x)
  | 0x33 => some (.storeDigits x)
  | 0x55 => some (.storeRegisters x)
  | 0x65 => some (.loadRegisters x)
  | 0x75 => some (.saveFlags x)
  | 0x85 => some (.restoreFlags x)
  | _ => none

/-- The instruction that a word stands for, if there is one.  The leading
digit chooses the family; the other digits are operands or choose within it. -/
def decode? (word : UInt16) : Option Instruction :=
  let number := word.toNat
  let x : Register := lastDigit (number / 0x100)
  let y : Register := lastDigit (number / 0x10)
  let last := number % 0x10
  let low := number % 0x100
  let byte := UInt8.ofNat number
  let address := Address.ofNat number
  match number / 0x1000 with
  | 0x0 =>
      if number = 0x00E0 then some .clearScreen
      else if number = 0x00EE then some .returnToCaller
      else none
  | 0x1 => some (.jump address)
  | 0x2 => some (.call address)
  | 0x3 => some (.skipIfByte x byte)
  | 0x4 => some (.skipUnlessByte x byte)
  | 0x5 => if last = 0x0 then some (.skipIfEqual x y) else none
  | 0x6 => some (.setByte x byte)
  | 0x7 => some (.addByte x byte)
  | 0x8 => ofArithmeticDigit? x y last
  | 0x9 => if last = 0x0 then some (.skipUnlessEqual x y) else none
  | 0xA => some (.setIndex address)
  | 0xB => some (.jumpByV0 address)
  | 0xC => some (.random x byte)
  | 0xD => some (.draw x y (lastDigit number))
  | 0xE => ofKeyByte? x low
  | 0xF => ofTransferByte? x low
  | _ => none

end Chip8.Instruction
