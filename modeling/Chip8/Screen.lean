import Chip8.Address

/-!
# The screen

64 by 32 pixels, each lit or unlit.  Drawing a sprite flips pixels, wraps
round both edges and tells whether a lit pixel went out.  Whoever shows the
screen elsewhere finds out from the dirty bit whether it may have changed, and
acknowledges what has been shown.

The packed form has eight pixels to a byte, row by row from the top left, the
leftmost of the eight in the lowest bit.
-/

namespace Chip8

/-- Where a pixel is: columns count from the left, rows from the top. -/
structure Position where
  column : Fin 64
  row : Fin 32
  deriving DecidableEq

namespace Position

/-- The place of coordinates of any size, which wrap round both edges. -/
def wrap (x y : Nat) : Position :=
  ⟨Fin.ofNat 64 x, Fin.ofNat 32 y⟩

/-- The number of a pixel, counted row by row. -/
def index (position : Position) : Fin 2048 :=
  ⟨64 * position.row + position.column, by omega⟩

theorem index_injective {first second : Position} (hindex : first.index = second.index) :
    first = second := by
  have hval := congrArg Fin.val hindex
  simp only [index] at hval
  have hcolumn : first.column = second.column := Fin.ext (by omega)
  have hrow : first.row = second.row := Fin.ext (by omega)
  cases first
  cases second
  simp_all

end Position

/-- The pixels, and whether they may have changed since this was last
acknowledged. -/
structure Screen where
  pixels : Vector Bool 2048
  dirty : Bool := false
  deriving DecidableEq

namespace Screen

def blank : Screen where
  pixels := Vector.replicate 2048 false

instance : Inhabited Screen := ⟨blank⟩

def isLit (screen : Screen) (position : Position) : Bool :=
  screen.pixels[position.index]

def clear (_screen : Screen) : Screen where
  pixels := Vector.replicate 2048 false
  dirty := true

/-- Take note of everything drawn so far. -/
def acknowledge (screen : Screen) : Screen :=
  { screen with dirty := false }

/-! ## Sprites -/

/-- The pixels that one row of a sprite flips when it starts at `x`, `y`: one
for each set bit, the highest bit on the left. -/
def rowPositions (x y : Nat) (bits : UInt8) : List Position :=
  (List.range 8).filterMap fun offset =>
    if bits.toNat.testBit (7 - offset) then some (Position.wrap (x + offset) y) else none

/-- The pixels that a sprite flips, row by row.  A sprite taller than the
screen may flip a pixel more than once. -/
def spritePositions (x y : Nat) (sprite : List UInt8) : List Position :=
  sprite.zipIdx.flatMap fun (bits, offset) => rowPositions x (y + offset) bits

def flip (screen : Screen) (position : Position) : Screen :=
  { screen with pixels := screen.pixels.set position.index (!screen.isLit position) }

/-- Flip pixels one after the other, and tell whether one was lit when its
turn came, or `collision` was there already. -/
def flipAll (screen : Screen) (collision : Bool) : List Position → Screen × Bool
  | [] => (screen, collision)
  | position :: rest =>
      let wasLit := screen.isLit position
      (screen.flip position).flipAll (collision || wasLit) rest

/-- Draw a sprite with its top left corner at `x`, `y`, and tell whether it put
a lit pixel out.  A sprite without any pixel leaves the dirty bit alone. -/
def draw (screen : Screen) (x y : UInt8) (sprite : List UInt8) : Screen × Bool :=
  let (drawn, collision) := screen.flipAll false (spritePositions x.toNat y.toNat sprite)
  ({ drawn with dirty := drawn.dirty || sprite.any (· ≠ 0) }, collision)

@[simp] theorem isLit_flip_self (screen : Screen) (position : Position) :
    (screen.flip position).isLit position = !screen.isLit position := by
  simp [flip, isLit]

theorem isLit_flip_of_ne (screen : Screen) {position other : Position}
    (hne : position ≠ other) : (screen.flip position).isLit other = screen.isLit other := by
  have hindex : position.index.val ≠ other.index.val :=
    fun hval => hne (Position.index_injective (Fin.ext hval))
  simp [flip, isLit, Vector.getElem_set_ne, hindex]

/-! ## The packed form -/

/-- Eight bits as a byte, the first in the lowest place. -/
def packByte : List Bool → Nat
  | [] => 0
  | bit :: rest => bit.toNat + 2 * packByte rest

/-- Byte `position` of the packed form. -/
def packedByte (screen : Screen) (position : Nat) : UInt8 :=
  UInt8.ofNat <| packByte <|
    (List.range 8).map fun bit => screen.pixels.getD (8 * position + bit) false

/-- All pixels in 256 bytes. -/
def bytes (screen : Screen) : List UInt8 :=
  (List.range 256).map screen.packedByte

end Screen

end Chip8
