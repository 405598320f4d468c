import Chip8.Instruction

/-!
# Words as stored instructions

A stored machine keeps operands in the words that they are cut out of: registers
and heights in bytes, addresses in words of 16 bits.  Nothing but the cutting
bounds them.
-/

namespace Chip8.Raw

/-- An instruction with its operands in bytes and words. -/
abbrev Instruction := InstructionForm UInt8 UInt16 UInt8

/-- The instruction with the given digits, if there is one.  The low byte and the
low twelve bits are handed over as well. -/
def ofDigits (lead x y last byte : UInt8) (address : UInt16) : Option Instruction :=
  match lead.toNat, x.toNat, y.toNat, last.toNat with
  | 0x0, 0x0, 0xE, 0x0 => some .clearScreen
  | 0x0, 0x0, 0xE, 0xE => some .returnToCaller
  | 0x1, _, _, _ => some (.jump address)
  | 0x2, _, _, _ => some (.call address)
  | 0x3, _, _, _ => some (.skipIfByte x byte)
  | 0x4, _, _, _ => some (.skipUnlessByte x byte)
  | 0x5, _, _, 0x0 => some (.skipIfEqual x y)
  | 0x6, _, _, _ => some (.setByte x byte)
  | 0x7, _, _, _ => some (.addByte x byte)
  | 0x8, _, _, 0x0 => some (.copy x y)
  | 0x8, _, _, 0x1 => some (.or x y)
  | 0x8, _, _, 0x2 => some (.and x y)
  | 0x8, _, _, 0x3 => some (.xor x y)
  | 0x8, _, _, 0x4 => some (.add x y)
  | 0x8, _, _, 0x5 => some (.subtract x y)
  | 0x8, _, _, 0x6 => some (.shiftRight x y)
  | 0x8, _, _, 0x7 => some (.subtractFrom x y)
  | 0x8, _, _, 0xE => some (.shiftLeft x y)
  | 0x9, _, _, 0x0 => some (.skipUnlessEqual x y)
  | 0xA, _, _, _ => some (.setIndex address)
  | 0xB, _, _, _ => some (.jumpByV0 address)
  | 0xC, _, _, _ => some (.random x byte)
  | 0xD, _, _, _ => some (.draw x y last)
  | 0xE, _, 0x9, 0xE => some (.skipIfHeld x)
  | 0xE, _, 0xA, 0x1 => some (.skipUnlessHeld x)
  | 0xF, _, 0x0, 0x7 => some (.readDelay x)
  | 0xF, _, 0x0, 0xA => some (.awaitKey x)
  | 0xF, _, 0x1, 0x5 => some (.setDelay x)
  | 0xF, _, 0x1, 0x8 => some (.setSound x)
  | 0xF, _, 0x1, 0xE => some (.addToIndex x)
  | 0xF, _, 0x2, 0x9 => some (.locateGlyph x)
  | 0xF, _, 0x3, 0x3 => some (.storeDigits x)
  | 0xF, _, 0x5, 0x5 => some (.storeRegisters x)
  | 0xF, _, 0x6, 0x5 => some (.loadRegisters x)
  | 0xF, _, 0x7, 0x5 => some (.saveFlags x)
  | 0xF, _, 0x8, 0x5 => some (.restoreFlags x)
  | _, _, _, _ => none

def decode (word : UInt16) : Option Instruction :=
  ofDigits ((word &&& 0xF000) >>> 12).toUInt8 ((word &&& 0x0F00) >>> 8).toUInt8
    ((word &&& 0x00F0) >>> 4).toUInt8 (word &&& 0x000F).toUInt8 (word &&& 0x00FF).toUInt8
    (word &&& 0x0FFF)

end Chip8.Raw
