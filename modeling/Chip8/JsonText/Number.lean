import Chip8.JsonText.Basic

/-!
# Numbers in JSON text

A number is a whole number if it has neither sign, fraction nor exponent and
fits into 64 bits.  Every other number is taken for one in binary floating
point, of which only one thing matters here: one too large for the 64-bit
format is refused.
-/

namespace Chip8.JsonText

/-- What a number is, as far as it is told apart here. -/
inductive Number where
  | whole (value : Nat)
  | other
  deriving DecidableEq

def digitValue (c : Char) : Nat :=
  c.toNat - '0'.toNat

/-- Append digits to a number as long as it fits into 64 bits; the digits
from the first one that does not fit are returned. -/
def absorbDigits (value : Nat) : List Char → Nat × List Char
  | [] => (value, [])
  | c :: rest =>
      let next := 10 * value + digitValue c
      if next < UInt64.size then absorbDigits next rest else (value, c :: rest)

/-! ## The range of the floating-point format -/

/-- The nearest number with 53 significant bits, the even one of two that are
equally near. -/
def roundToDouble (value : Nat) : Nat :=
  let spacing := Nat.pow 2 ((value.log2 + 1) - 53)
  let below := value / spacing
  let remainder := value % spacing
  if spacing < 2 * remainder ∨ (2 * remainder = spacing ∧ below % 2 = 1) then
    (below + 1) * spacing
  else
    below * spacing

/-- The least number that is rounded to infinity: half a unit of the last place
above the largest number of the format. -/
def firstInfinite : Nat :=
  Nat.pow 2 1024 - Nat.pow 2 970

/-- Whether `significand` times ten to the `exponent`, both factors rounded
before they are multiplied, is too large for the format. -/
def isOutOfRange (significand : Nat) (exponent : Int) : Bool :=
  if significand = 0 then false
  else if exponent < 0 then false
  else if 308 < exponent then true
  else
    firstInfinite ≤ roundToDouble significand * roundToDouble (Nat.pow 10 exponent.toNat)

/-- A number in floating point, unless it is out of range. -/
def floating (significand : Nat) (exponent : Int) (rest : List Char) :
    Except Problem (Number × List Char) :=
  if isOutOfRange significand exponent then .error .illFormed else .ok (.other, rest)

/-! ## The parts of a number -/

/-- The largest exponent that is told from larger ones, which count as infinite. -/
def maxExponent : Nat := 0x7FFFFFFF

/-- The exponent that digits stand for.  It stays where it is once it is larger
than `maxExponent`. -/
def exponentOfDigits (digits : List Char) : Nat :=
  digits.foldl (fun value c => min (maxExponent + 1) (10 * value + digitValue c)) 0

/-- The sign of an exponent, `true` for a negative one, and what follows it. -/
def exponentSign : List Char → Bool × List Char
  | '+' :: rest => (false, rest)
  | '-' :: rest => (true, rest)
  | rest => (false, rest)

/-- Read an exponent from behind its letter.  `scale` is the exponent of the
digits before it. -/
def readExponent (significand : Nat) (scale : Int) (rest : List Char) :
    Except Problem (Number × List Char) :=
  let (negative, rest) := exponentSign rest
  let digits := rest.takeWhile Char.isDigit
  let after := rest.dropWhile Char.isDigit
  if digits.isEmpty then
    .error (if rest.isEmpty then .cutShort else .illFormed)
  else
    let exponent := exponentOfDigits digits
    if maxExponent < exponent then
      if significand ≠ 0 ∧ !negative then .error .illFormed else .ok (.other, after)
    else
      floating significand (if negative then scale - exponent else scale + exponent) after

/-- Read what may follow the digits of a floating-point number. -/
def readScaled (significand : Nat) (scale : Int) (rest : List Char) :
    Except Problem (Number × List Char) :=
  match rest with
  | 'e' :: rest | 'E' :: rest => readExponent significand scale rest
  | rest => floating significand scale rest

/-- Read a fraction from behind its point.  Digits that do not fit into the
significand are dropped. -/
def readFraction (significand : Nat) (scale : Int) (rest : List Char) :
    Except Problem (Number × List Char) :=
  let digits := rest.takeWhile Char.isDigit
  let after := rest.dropWhile Char.isDigit
  if digits.isEmpty then
    .error (if rest.isEmpty then .cutShort else .illFormed)
  else
    let (significand, dropped) := absorbDigits significand digits
    readScaled significand (scale - (digits.length - dropped.length : Nat)) after

def readUnsigned (rest : List Char) : Except Problem (Number × List Char) :=
  let digits := rest.takeWhile Char.isDigit
  let after := rest.dropWhile Char.isDigit
  match digits with
  | [] => .error (if rest.isEmpty then .cutShort else .illFormed)
  | '0' :: _ :: _ => .error .illFormed
  | digits =>
      let (significand, left) := absorbDigits 0 digits
      match after with
      | '.' :: after => readFraction significand left.length after
      | 'e' :: after | 'E' :: after => readExponent significand left.length after
      | after =>
          if left.isEmpty then .ok (.whole significand, after)
          else floating significand left.length after

/-- Read a number.  One with a sign is never taken for a whole number. -/
def readNumber : List Char → Except Problem (Number × List Char)
  | '-' :: rest => (readUnsigned rest).map fun (_, rest) => (.other, rest)
  | rest => readUnsigned rest

end Chip8.JsonText
