import Chip8.Instruction
import Chip8.Text.Hex

/-!
# Assembly text

How an instruction is written for a reader.  One mnemonic serves several
instructions, which their operands tell apart: registers start with `V`,
bytes have two hexadecimal digits and addresses three.
-/

namespace Chip8.Instruction

def registerText (x : Register) : String :=
  "V" ++ Text.nibble x

def byteText (byte : UInt8) : String :=
  "0x" ++ Text.hex 2 byte.toNat

def addressText (address : Address) : String :=
  "0x" ++ Text.hex 3 address

def twoOperands (mnemonic first second : String) : String :=
  mnemonic ++ " " ++ first ++ ", " ++ second

def assembly : Instruction → String
  | .clearScreen => "CLS"
  | .returnToCaller => "RET"
  | .jump target => "JP " ++ addressText target
  | .call target => "CALL " ++ addressText target
  | .skipIfByte x byte => twoOperands "SE" (registerText x) (byteText byte)
  | .skipUnlessByte x byte => twoOperands "SNE" (registerText x) (byteText byte)
  | .skipIfEqual x y => twoOperands "SE" (registerText x) (registerText y)
  | .setByte x byte => twoOperands "LD" (registerText x) (byteText byte)
  | .addByte x byte => twoOperands "ADD" (registerText x) (byteText byte)
  | .copy x y => twoOperands "LD" (registerText x) (registerText y)
  | .or x y => twoOperands "OR" (registerText x) (registerText y)
  | .and x y => twoOperands "AND" (registerText x) (registerText y)
  | .xor x y => twoOperands "XOR" (registerText x) (registerText y)
  | .add x y => twoOperands "ADD" (registerText x) (registerText y)
  | .subtract x y => twoOperands "SUB" (registerText x) (registerText y)
  | .shiftRight x _ => "SHR " ++ registerText x
  | .subtractFrom x y => twoOperands "SUBN" (registerText x) (registerText y)
  | .shiftLeft x _ => "SHL " ++ registerText x
  | .skipUnlessEqual x y => twoOperands "SNE" (registerText x) (registerText y)
  | .setIndex target => twoOperands "LD" "I" (addressText target)
  | .jumpByV0 base => twoOperands "JP" "V0" (addressText base)
  | .random x mask => twoOperands "RND" (registerText x) (byteText mask)
  | .draw x y height =>
      twoOperands "DRW" (registerText x) (registerText y) ++ ", " ++ Nat.repr height
  | .skipIfHeld x => "SKP " ++ registerText x
  | .skipUnlessHeld x => "SKNP " ++ registerText x
  | .readDelay x => twoOperands "LD" (registerText x) "DT"
  | .awaitKey x => twoOperands "LD" (registerText x) "K"
  | .setDelay x => twoOperands "LD" "DT" (registerText x)
  | .setSound x => twoOperands "LD" "ST" (registerText x)
  | .addToIndex x => twoOperands "ADD" "I" (registerText x)
  | .locateGlyph x => twoOperands "LD" "F" (registerText x)
  | .storeDigits x => twoOperands "LD" "B" (registerText x)
  | .storeRegisters x => twoOperands "LD" "[I]" (registerText x)
  | .loadRegisters x => twoOperands "LD" (registerText x) "[I]"
  | .saveFlags x => twoOperands "LD" "R" (registerText x)
  | .restoreFlags x => twoOperands "LD" (registerText x) "R"

end Chip8.Instruction
