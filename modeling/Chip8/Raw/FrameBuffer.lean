import Chip8.Raw.Checked

/-!
# The packed screen

64 by 32 pixels, eight to a byte, row by row, the leftmost of the eight in the
lowest bit.  Sprites are drawn bit by bit into the bytes.
-/

namespace Chip8.Raw

/-- The bytes of the screen, and whether they may have changed since this was
last acknowledged. -/
structure FrameBuffer where
  bytes : Vector UInt8 256
  dirty : Bool := false
  deriving DecidableEq

namespace FrameBuffer

def blank : FrameBuffer where
  bytes := Vector.replicate 256 0

/-- The byte that holds a pixel, and the bit for it.  Coordinates wrap round
both edges. -/
def locate (x y : Nat) : Checked (Nat × UInt8) := do
  let index ← asSize (64 * (y % 32) + x % 64)
  let bit ← byteBit (index % 8)
  return (index / 8, bit)

def pixel (buffer : FrameBuffer) (x y : Nat) : Checked Bool := do
  let (index, bit) ← locate x y
  let byte ← entryAt buffer.bytes index
  return byte &&& bit ≠ 0

def clear (_buffer : FrameBuffer) : FrameBuffer where
  bytes := Vector.replicate 256 0
  dirty := true

def acknowledge (buffer : FrameBuffer) : FrameBuffer :=
  { buffer with dirty := false }

/-! ## Sprites -/

/-- Flip the pixel that stands for the bit of a row at `across`, if that is set,
where `down` is the place of the row.  The result tells whether the pixel was
lit, or `collision` was there already. -/
def drawBit (x y : UInt8) (down : Nat) (row : UInt8) (drawing : FrameBuffer × Bool)
    (across : Nat) : Checked (FrameBuffer × Bool) := do
  let (buffer, collision) := drawing
  let bit ← byteBitFromTop across
  if row &&& bit = 0 then
    return drawing
  else
    let column ← asSize (x.toNat + across)
    let line ← asSize (y.toNat + down)
    let (index, mask) ← locate column line
    let byte ← entryAt buffer.bytes index
    let bytes ← replaceAt buffer.bytes index (byte ^^^ mask)
    return ({ bytes := bytes, dirty := true }, collision || byte &&& mask ≠ 0)

/-- Draw the rows of a sprite, the first of which has place `down`, each of them
from the left. -/
def drawRows (x y : UInt8) (drawing : FrameBuffer × Bool) (down : Nat) :
    List UInt8 → Checked (FrameBuffer × Bool)
  | [] => return drawing
  | row :: rest => do
      let drawn ← (List.range 8).foldlM (drawBit x y down row) drawing
      drawRows x y drawn (down + 1) rest

/-- Draw a sprite with its top left corner at `x`, `y`, and tell whether it put
a lit pixel out. -/
def draw (buffer : FrameBuffer) (x y : UInt8) (sprite : List UInt8) :
    Checked (FrameBuffer × Bool) :=
  drawRows x y (buffer, false) 0 sprite

end FrameBuffer

end Chip8.Raw
