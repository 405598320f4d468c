import Chip8.Device

/-!
# The terminal display

A picture of any size in a frame of box-drawing characters.  The packed form
of a picture is read one plane at a time: the points of the lit pixels and the
points of the unlit ones.  Points lie on a canvas whose vertical axis points
up, so the rows of the picture have the ordinates 0, -1, -2 and so on.
-/

namespace Chip8

structure CanvasPoint where
  x : Nat
  y : Int
  deriving DecidableEq

structure Raster where
  width : Nat
  height : Nat
  deriving DecidableEq

namespace Raster

def pixelCount (raster : Raster) : Nat :=
  raster.width * raster.height

/-- How many bytes a packed picture has, unless its pixels are more than 64 bits
can count. -/
def byteCount? (raster : Raster) : Option Nat :=
  if raster.pixelCount < UInt64.size then some (raster.pixelCount / 8) else none

/-- Where pixel number `index` lies. -/
def point (raster : Raster) (index : Nat) : CanvasPoint :=
  ⟨index % raster.width, -((index / raster.width : Nat) : Int)⟩

/-- The bit of pixel number `index`, if the data reach that far. -/
def bit? (data : List UInt8) (index : Nat) : Option Bool :=
  data[index / 8]?.map fun byte => byte.toNat.testBit (index % 8)

/-- The points among the first `count` pixels whose bit is `value`, the last
one first, if the data reach that far. -/
def planeBelow (raster : Raster) (data : List UInt8) (value : Bool) :
    Nat → Option (List CanvasPoint)
  | 0 => some []
  | count + 1 =>
      match bit? data count, raster.planeBelow data value count with
      | some bit, some points =>
          some (if bit = value then raster.point count :: points else points)
      | _, _ => none

/-- The points of all pixels whose bit is `value`, the last one first. -/
def plane (raster : Raster) (data : List UInt8) (value : Bool) : Option (List CanvasPoint) :=
  raster.planeBelow data value raster.pixelCount

end Raster

/-! ## Cells -/

/-- What a cell inside the frame shows. -/
inductive Cell where
  | blank
  | unlit
  | lit
  deriving DecidableEq

def Cell.character : Cell → Char
  | .blank => ' '
  | .unlit => '.'
  | .lit => '#'

/-- How many columns and rows a picture gets on the terminal, which counts them
in 16 bits.  Of larger numbers only that much is left. -/
def Raster.inside (raster : Raster) : Raster :=
  ⟨raster.width % UInt16.size, raster.height % UInt16.size⟩

/-- A terminal that shows pictures of one size.  Before the first picture it
shows nothing. -/
structure Terminal where
  raster : Raster
  cells : Option (Array Cell) := none
  deriving DecidableEq

namespace Terminal

/-- The size of the whole terminal, in characters. -/
def columns : Nat := 200

/-- The size of the whole terminal, in lines. -/
def lines : Nat := 100

/-- Whether pictures of this size can be shown, with the frame around them. -/
def fits (raster : Raster) : Bool :=
  0 < raster.width && 0 < raster.height
    && raster.inside.width + 2 ≤ columns && raster.inside.height + 2 ≤ lines

/-- The cell for coordinate `position` out of `extent`, when `count` cells are
there for all of them.  The first and the last one lie at the ends. -/
def spread (extent count position : Nat) : Nat :=
  position * (count - 1) / (extent - 1)

/-- With a cell for each coordinate, each is shown in its own. -/
theorem spread_self {extent : Nat} (position : Nat) (hextent : 1 < extent) :
    spread extent extent position = position :=
  Nat.mul_div_cancel position (by omega)

/-- The number of the cell in which a point is shown, counted row by row. -/
def cellIndex (raster : Raster) (point : CanvasPoint) : Nat :=
  raster.inside.width * spread raster.height raster.inside.height (-point.y).toNat
    + spread raster.width raster.inside.width point.x

def paint (raster : Raster) (cell : Cell) (cells : Array Cell) (points : List CanvasPoint) :
    Array Cell :=
  points.foldl (fun cells point => cells.setIfInBounds (cellIndex raster point) cell) cells

/-- The cells of a picture with the given planes.  A canvas that is only one
cell wide or high has no extent, and nothing can be painted on it. -/
def cellsOf (raster : Raster) (unlit lit : List CanvasPoint) : Array Cell :=
  let empty := Array.replicate raster.inside.pixelCount .blank
  if raster.width < 2 ∨ raster.height < 2 then empty
  else paint raster .lit (paint raster .unlit empty unlit) lit

/-- Draw a picture.  The data must have exactly the bytes of the picture and
hold a bit for each of its pixels; otherwise there is no result. -/
def draw? (terminal : Terminal) (data : List UInt8) : Option Terminal :=
  let raster := terminal.raster
  if fits raster ∧ raster.byteCount? = some data.length then
    match raster.plane data false, raster.plane data true with
    | some unlit, some lit => some { terminal with cells := some (cellsOf raster unlit lit) }
    | _, _ => none
  else
    none

/-! ## The terminal as text -/

/-- What stands in the top edge of the frame. -/
def title : List Char := ['C', 'H', 'I', 'P', '-', '8']

/-- The line of the frame above the picture, with as much of the title as there
is room for. -/
def topLine (width : Nat) : String :=
  let shown := title.take width
  String.ofList ('┌' :: shown ++ List.replicate (width - shown.length) '─' ++ ['┐'])

def bottomLine (width : Nat) : String :=
  String.ofList ('└' :: List.replicate width '─' ++ ['┘'])

/-- One row of the picture between the sides of the frame. -/
def rowLine (width : Nat) (cells : Array Cell) (row : Nat) : String :=
  let shown := (List.range width).map fun column =>
    (cells.getD (width * row + column) .blank).character
  String.ofList ('│' :: shown ++ ['│'])

def framed (inside : Raster) (cells : Array Cell) : List String :=
  topLine inside.width
    :: (List.range inside.height).map (rowLine inside.width cells)
    ++ [bottomLine inside.width]

def blanks (count : Nat) : String :=
  String.ofList (List.replicate count ' ')

/-- The corner of the terminal that is as large as the picture and its frame. -/
def text (terminal : Terminal) : List String :=
  let raster := terminal.raster
  let inside := raster.inside
  let blankLine := blanks (raster.width + 2)
  match terminal.cells with
  | none => List.replicate (raster.height + 2) blankLine
  | some cells =>
      (framed inside cells).map (· ++ blanks (raster.width - inside.width))
        ++ List.replicate (raster.height - inside.height) blankLine

instance : DisplayDevice Terminal where
  draw terminal frame :=
    match terminal.draw? frame with
    | some drawn => (.ok (), drawn)
    | none => (.error (.device "frame of the wrong size"), terminal)

end Terminal

end Chip8
