import Chip8.Address

/-!
# Instructions

The instruction set.  In the patterns `X` and `Y` name registers, `N` stands for
one digit of a height, `NN` for a byte and `NNN` for an address.  The types of
the operands are parameters: `Instruction` has each operand in the range that
its place in the word allows, and other choices serve those who keep operands
in words of some width.
-/

namespace Chip8

/-- What one word of a program asks for, with registers, addresses and heights
of any types. -/
inductive InstructionForm (Name Location Height : Type) where
  /-- `00E0`: put every pixel out. -/
  | clearScreen
  /-- `00EE`: go back to the caller. -/
  | returnToCaller
  /-- `1NNN`: go on at an address. -/
  | jump (target : Location)
  /-- `2NNN`: go on at an address and remember where to return. -/
  | call (target : Location)
  /-- `3XNN`: skip the next instruction if VX is the byte. -/
  | skipIfByte (x : Name) (byte : UInt8)
  /-- `4XNN`: skip the next instruction unless VX is the byte. -/
  | skipUnlessByte (x : Name) (byte : UInt8)
  /-- `5XY0`: skip the next instruction if VX is VY. -/
  | skipIfEqual (x y : Name)
  /-- `6XNN`: put the byte into VX. -/
  | setByte (x : Name) (byte : UInt8)
  /-- `7XNN`: add the byte to VX; VF stays. -/
  | addByte (x : Name) (byte : UInt8)
  /-- `8XY0`: put VY into VX. -/
  | copy (x y : Name)
  /-- `8XY1`: bitwise or. -/
  | or (x y : Name)
  /-- `8XY2`: bitwise and. -/
  | and (x y : Name)
  /-- `8XY3`: bitwise exclusive or. -/
  | xor (x y : Name)
  /-- `8XY4`: add VY to VX; VF tells whether the sum was too large for a byte. -/
  | add (x y : Name)
  /-- `8XY5`: subtract VY from VX; VF tells whether VX was large enough. -/
  | subtract (x y : Name)
  /-- `8XY6`: halve VX; VF receives the bit that is lost.  VY has no part in it. -/
  | shiftRight (x y : Name)
  /-- `8XY7`: subtract VX from VY into VX; VF tells whether VY was large enough. -/
  | subtractFrom (x y : Name)
  /-- `8XYE`: double VX; VF receives the bit that is lost.  VY has no part in it. -/
  | shiftLeft (x y : Name)
  /-- `9XY0`: skip the next instruction unless VX is VY. -/
  | skipUnlessEqual (x y : Name)
  /-- `ANNN`: put the address into the index. -/
  | setIndex (target : Location)
  /-- `BNNN`: go on at the address plus V0. -/
  | jumpByV0 (base : Location)
  /-- `CXNN`: put a random byte, of which the bits of the byte are kept, into VX. -/
  | random (x : Name) (mask : UInt8)
  /-- `DXYN`: draw the sprite at the index; VF tells whether a lit pixel went out. -/
  | draw (x y : Name) (height : Height)
  /-- `EX9E`: skip the next instruction if the key named by VX is held. -/
  | skipIfHeld (x : Name)
  /-- `EXA1`: skip the next instruction unless the key named by VX is held. -/
  | skipUnlessHeld (x : Name)
  /-- `FX07`: put the delay timer into VX. -/
  | readDelay (x : Name)
  /-- `FX0A`: wait for the next key and put it into VX. -/
  | awaitKey (x : Name)
  /-- `FX15`: set the delay timer to VX. -/
  | setDelay (x : Name)
  /-- `FX18`: set the sound timer to VX. -/
  | setSound (x : Name)
  /-- `FX1E`: add VX to the index; VF stays. -/
  | addToIndex (x : Name)
  /-- `FX29`: put the address of the glyph for VX into the index. -/
  | locateGlyph (x : Name)
  /-- `FX33`: store the three decimal digits of VX at the index. -/
  | storeDigits (x : Name)
  /-- `FX55`: store V0 to VX at the index, which stays. -/
  | storeRegisters (x : Name)
  /-- `FX65`: load V0 to VX from the index, which stays. -/
  | loadRegisters (x : Name)
  /-- `FX75`: copy V0 to VX into the flag registers. -/
  | saveFlags (x : Name)
  /-- `FX85`: copy the flag registers into V0 to VX. -/
  | restoreFlags (x : Name)
  deriving DecidableEq

/-- What one word of a program asks for. -/
abbrev Instruction := InstructionForm Register Address (Fin 16)

namespace InstructionForm

variable {Name Location Height Name' Location' Height' : Type}

/-- The same instruction on other operands. -/
def map (name : Name → Name') (location : Location → Location') (size : Height → Height') :
    InstructionForm Name Location Height → InstructionForm Name' Location' Height'
  | .clearScreen => .clearScreen
  | .returnToCaller => .returnToCaller
  | .jump target => .jump (location target)
  | .call target => .call (location target)
  | .skipIfByte x byte => .skipIfByte (name x) byte
  | .skipUnlessByte x byte => .skipUnlessByte (name x) byte
  | .skipIfEqual x y => .skipIfEqual (name x) (name y)
  | .setByte x byte => .setByte (name x) byte
  | .addByte x byte => .addByte (name x) byte
  | .copy x y => .copy (name x) (name y)
  | .or x y => .or (name x) (name y)
  | .and x y => .and (name x) (name y)
  | .xor x y => .xor (name x) (name y)
  | .add x y => .add (name x) (name y)
  | .subtract x y => .subtract (name x) (name y)
  | .shiftRight x y => .shiftRight (name x) (name y)
  | .subtractFrom x y => .subtractFrom (name x) (name y)
  | .shiftLeft x y => .shiftLeft (name x) (name y)
  | .skipUnlessEqual x y => .skipUnlessEqual (name x) (name y)
  | .setIndex target => .setIndex (location target)
  | .jumpByV0 base => .jumpByV0 (location base)
  | .random x mask => .random (name x) mask
  | .draw x y height => .draw (name x) (name y) (size height)
  | .skipIfHeld x => .skipIfHeld (name x)
  | .skipUnlessHeld x => .skipUnlessHeld (name x)
  | .readDelay x => .readDelay (name x)
  | .awaitKey x => .awaitKey (name x)
  | .setDelay x => .setDelay (name x)
  | .setSound x => .setSound (name x)
  | .addToIndex x => .addToIndex (name x)
  | .locateGlyph x => .locateGlyph (name x)
  | .storeDigits x => .storeDigits (name x)
  | .storeRegisters x => .storeRegisters (name x)
  | .loadRegisters x => .loadRegisters (name x)
  | .saveFlags x => .saveFlags (name x)
  | .restoreFlags x => .restoreFlags (name x)

end InstructionForm

end Chip8
