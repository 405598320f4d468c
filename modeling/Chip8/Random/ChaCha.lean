/-!
# The ChaCha block function

A block is sixteen 32-bit words, arranged in four rows of four.  It depends on
a 256-bit key and a 64-bit block number; the remaining two words of the input
are zero.
-/

namespace Chip8.ChaCha

/-- Four words side by side. -/
structure Row where
  first : UInt32
  second : UInt32
  third : UInt32
  fourth : UInt32
  deriving DecidableEq

namespace Row

def add (left right : Row) : Row :=
  ⟨left.first + right.first, left.second + right.second,
    left.third + right.third, left.fourth + right.fourth⟩

/-- Rotate a word left by `count` bits, for a `count` between 1 and 31. -/
def rotateWord (word count : UInt32) : UInt32 :=
  (word <<< count) ||| (word >>> (32 - count))

/-- Word by word exclusive or, after which each word is rotated left. -/
def xorRotate (left right : Row) (count : UInt32) : Row :=
  ⟨rotateWord (left.first ^^^ right.first) count,
    rotateWord (left.second ^^^ right.second) count,
    rotateWord (left.third ^^^ right.third) count,
    rotateWord (left.fourth ^^^ right.fourth) count⟩

/-- The words moved one place to the left, the first one to the end. -/
def turn (row : Row) : Row :=
  ⟨row.second, row.third, row.fourth, row.first⟩

def toList (row : Row) : List UInt32 :=
  [row.first, row.second, row.third, row.fourth]

end Row

/-- Sixteen words in four rows. -/
structure Matrix where
  top : Row
  upper : Row
  lower : Row
  bottom : Row
  deriving DecidableEq

namespace Matrix

/-- The quarter round, on the four columns at once. -/
def mixColumns (matrix : Matrix) : Matrix :=
  let top := matrix.top.add matrix.upper
  let bottom := matrix.bottom.xorRotate top 16
  let lower := matrix.lower.add bottom
  let upper := matrix.upper.xorRotate lower 12
  let top := top.add upper
  let bottom := bottom.xorRotate top 8
  let lower := lower.add bottom
  let upper := upper.xorRotate lower 7
  ⟨top, upper, lower, bottom⟩

/-- Move each row left by its own distance, so that diagonals become columns. -/
def alignDiagonals (matrix : Matrix) : Matrix :=
  ⟨matrix.top, matrix.upper.turn, matrix.lower.turn.turn, matrix.bottom.turn.turn.turn⟩

/-- Undo `alignDiagonals`. -/
def restoreDiagonals (matrix : Matrix) : Matrix :=
  ⟨matrix.top, matrix.upper.turn.turn.turn, matrix.lower.turn.turn, matrix.bottom.turn⟩

/-- One round on the columns and one on the diagonals. -/
def doubleRound (matrix : Matrix) : Matrix :=
  matrix.mixColumns.alignDiagonals.mixColumns.restoreDiagonals

def doubleRounds (matrix : Matrix) : Nat → Matrix
  | 0 => matrix
  | count + 1 => matrix.doubleRound.doubleRounds count

def add (left right : Matrix) : Matrix :=
  ⟨left.top.add right.top, left.upper.add right.upper,
    left.lower.add right.lower, left.bottom.add right.bottom⟩

def toList (matrix : Matrix) : List UInt32 :=
  matrix.top.toList ++ matrix.upper.toList ++ matrix.lower.toList ++ matrix.bottom.toList

end Matrix

/-- A 256-bit key, as two rows. -/
structure CipherKey where
  upper : Row
  lower : Row
  deriving DecidableEq

/-- What the rounds start from: the constant, the key, and the block number
with its low half first. -/
def initialMatrix (key : CipherKey) (blockNumber : Nat) : Matrix where
  top := ⟨0x61707865, 0x3320646e, 0x79622d32, 0x6b206574⟩
  upper := key.upper
  lower := key.lower
  bottom := ⟨UInt32.ofNat blockNumber, UInt32.ofNat (blockNumber / UInt32.size), 0, 0⟩

/-- Twelve rounds, and the input added to what they yield. -/
def block (key : CipherKey) (blockNumber : Nat) : List UInt32 :=
  let start := initialMatrix key blockNumber
  ((start.doubleRounds 6).add start).toList

end Chip8.ChaCha
