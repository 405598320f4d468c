import Chip8.Memory
import Chip8.Raw.Checked

/-!
# Memory under addresses of 16 bits

The memory of a stored machine, whose addresses are words of 16 bits.  Of each
address the low twelve bits count, and the offsets in a block wrap with them.
-/

namespace Chip8.Raw

/-- The bits of an address that count. -/
def addressMask : UInt16 := 0x0FFF

/-- Where programs are loaded. -/
def programAddress : UInt16 := 0x0200

def readByte (memory : Memory) (address : UInt16) : Checked UInt8 :=
  entryAt memory.cells (address &&& addressMask).toNat

def writeByte (memory : Memory) (address : UInt16) (byte : UInt8) : Checked Memory := do
  let cells ← replaceAt memory.cells (address &&& addressMask).toNat byte
  return ⟨cells⟩

/-- Store bytes one after the other, the first one `offset` places after an
address. -/
def writeFrom (memory : Memory) (address : UInt16) (offset : Nat) : List UInt8 → Checked Memory
  | [] => return memory
  | byte :: rest => do
      let written ← writeByte memory (address + UInt16.ofNat offset) byte
      writeFrom written address (offset + 1) rest

/-- Store bytes from an address on. -/
def writeBytes (memory : Memory) (data : List UInt8) (address : UInt16) : Checked Memory :=
  writeFrom memory address 0 data

/-- The bytes from `offset` places after an address on, one for each entry of
the list that they are read into. -/
def readFrom (memory : Memory) (address : UInt16) (offset : Nat) :
    List UInt8 → Checked (List UInt8)
  | [] => return []
  | _ :: rest => do
      let byte ← readByte memory (address + UInt16.ofNat offset)
      let others ← readFrom memory address (offset + 1) rest
      return byte :: others

/-- The bytes from an address on, read into a list. -/
def readBytes (memory : Memory) (address : UInt16) (out : List UInt8) : Checked (List UInt8) :=
  readFrom memory address 0 out

def wordAt (memory : Memory) (address : UInt16) : Checked UInt16 := do
  let high ← readByte memory address
  let low ← readByte memory (address + 1)
  return (high.toUInt16 <<< 8) ||| low.toUInt16

def freshMemory : Checked Memory :=
  writeBytes .zero Font.glyphs 0x050

/-- Store a program at its load address, unless it is too long. -/
def loadProgram (memory : Memory) (program : List UInt8) :
    Checked (Except Fault Unit × Memory) :=
  if Memory.maxProgramLength < program.length then
    return (.error .programTooLong, memory)
  else do
    let stop ← asSize (programAddress.toNat + program.length)
    let cells ← replaceRange memory.cells programAddress.toNat stop program
    return (.ok (), ⟨cells⟩)

def glyphAddress (digit : UInt8) : Checked UInt16 :=
  asWord (0x050 + Font.glyphHeight * (digit &&& 0x0F).toNat)

end Chip8.Raw
