import Chip8.Address
import Chip8.Fault
import Chip8.Font

/-!
# Memory

4096 cells of one byte.  The font stands at `0x050` and programs are loaded
at `0x200`; the stack, the registers and the screen are kept elsewhere.
Addresses wrap, so a block that runs past the last cell goes on at the first.
-/

namespace Chip8

/-- The cells of the machine's memory. -/
structure Memory where
  cells : Vector UInt8 4096
  deriving DecidableEq

namespace Memory

/-- Where the first glyph of the font starts. -/
def fontStart : Address := Address.ofNat 0x050

/-- Where programs are loaded, and where their execution starts. -/
def programStart : Address := Address.ofNat 0x200

/-- The longest program that fits between its load address and the last cell. -/
def maxProgramLength : Nat := 4096 - 0x200

def read (memory : Memory) (address : Address) : UInt8 :=
  memory.cells[address]

def write (memory : Memory) (address : Address) (byte : UInt8) : Memory :=
  ⟨memory.cells.set address byte⟩

/-- The bytes of `count` consecutive cells. -/
def readBlock (memory : Memory) (start : Address) (count : Nat) : List UInt8 :=
  (List.range count).map fun offset => memory.read (start.offset offset)

/-- Store bytes in consecutive cells, one after the other, so that of several
bytes meant for one cell the last one stays. -/
def writeBlock (memory : Memory) (start : Address) : List UInt8 → Memory
  | [] => memory
  | byte :: rest => (memory.write start byte).writeBlock (start.offset 1) rest

/-- The word at an address, high byte first. -/
def word (memory : Memory) (address : Address) : UInt16 :=
  UInt16.ofNat (256 * (memory.read address).toNat + (memory.read (address.offset 1)).toNat)

def zero : Memory :=
  ⟨Vector.replicate 4096 0⟩

/-- Zero, apart from the font. -/
def fresh : Memory :=
  zero.writeBlock fontStart Font.glyphs

instance : Inhabited Memory := ⟨fresh⟩

/-- Store a program at its load address, or nothing at all if it is too long. -/
def loadProgram (memory : Memory) (program : List UInt8) : Except Fault Memory :=
  if program.length ≤ maxProgramLength then
    .ok (memory.writeBlock programStart program)
  else
    .error .programTooLong

/-! ## Reading what was written -/

@[simp] theorem read_write_self (memory : Memory) (address : Address) (byte : UInt8) :
    (memory.write address byte).read address = byte := by
  simp [read, write]

theorem read_write_of_ne (memory : Memory) {address other : Address} (byte : UInt8)
    (hne : address ≠ other) : (memory.write address byte).read other = memory.read other := by
  have hval : address.val ≠ other.val := fun hval => hne (Fin.ext hval)
  simp [read, write, Vector.getElem_set_ne, hval]

@[simp] theorem length_readBlock (memory : Memory) (start : Address) (count : Nat) :
    (memory.readBlock start count).length = count := by
  simp [readBlock]

/-- Where the glyph for the low half of `digit` starts. -/
def glyphAddress (digit : UInt8) : Address :=
  fontStart.offset (Font.glyphHeight * (lowNibble digit).val)

end Memory

end Chip8
