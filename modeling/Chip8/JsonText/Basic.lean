/-!
# JSON text

Reading works on the characters that are left.  Each function takes one
construct off their front and returns what follows it.  Here are blanks, the
literal words and strings; numbers and whole values have modules of their own.
-/

namespace Chip8.JsonText

/-- Why a text is refused. -/
inductive Problem where
  /-- The text is not well-formed. -/
  | illFormed
  /-- The text is well-formed so far and stops too early. -/
  | cutShort
  /-- A well-formed value stands where another kind of value is needed. -/
  | wrongKind
  deriving DecidableEq

/-- The four characters that may stand between the parts of a value. -/
def isBlank (c : Char) : Bool :=
  c = ' ' || c = '\n' || c = '\t' || c = '\r'

def skipBlanks : List Char → List Char
  | [] => []
  | c :: rest => if isBlank c then skipBlanks rest else c :: rest

/-- Take a given word off the front. -/
def skipWord : List Char → List Char → Except Problem (List Char)
  | [], rest => .ok rest
  | _ :: _, [] => .error .cutShort
  | expected :: word, c :: rest =>
      if c = expected then skipWord word rest else .error .illFormed

/-- Skip blanks and then one given character. -/
def skipMark (mark : Char) (rest : List Char) : Except Problem (List Char) :=
  match skipBlanks rest with
  | [] => .error .cutShort
  | c :: rest => if c = mark then .ok rest else .error .illFormed

/-! ## Strings -/

/-- The value of a hexadecimal digit of either case. -/
def hexDigitValue? (c : Char) : Option Nat :=
  if '0' ≤ c ∧ c ≤ '9' then some (c.toNat - '0'.toNat)
  else if 'a' ≤ c ∧ c ≤ 'f' then some (c.toNat - 'a'.toNat + 10)
  else if 'A' ≤ c ∧ c ≤ 'F' then some (c.toNat - 'A'.toNat + 10)
  else none

/-- How many bytes characters take in UTF-8. -/
def utf8Length (rest : List Char) : Nat :=
  rest.foldl (fun length c => length + c.utf8Size) 0

/-- Whether a number is the first half of a surrogate pair. -/
def isHighSurrogate (unit : Nat) : Bool :=
  0xD800 ≤ unit && unit ≤ 0xDBFF

/-- Whether a number is the second half of a surrogate pair. -/
def isLowSurrogate (unit : Nat) : Bool :=
  0xDC00 ≤ unit && unit ≤ 0xDFFF

/-- The character that a surrogate pair stands for. -/
def joinSurrogates (high low : Nat) : Char :=
  Char.ofNat (0x10000 + 0x400 * (high - 0xD800) + (low - 0xDC00))

/-- Where in a string the reader stands.  `pending` is the first half of a
surrogate pair whose second half has to follow. -/
inductive StringState where
  | plain
  /-- A backslash has been read. -/
  | escape
  /-- `missing` digits of an escape by number have yet to come. -/
  | digits (missing unit : Nat) (pending : Option Nat)
  /-- The first half of a surrogate pair has been read. -/
  | pair (pending : Nat)
  /-- So has the backslash of its second half. -/
  | pairEscape (pending : Nat)

/-- The character that a one-letter escape stands for. -/
def shortEscape? : Char → Option Char
  | '"' => some '"'
  | '\\' => some '\\'
  | '/' => some '/'
  | 'b' => some '\x08'
  | 'f' => some '\x0c'
  | 'n' => some '\n'
  | 'r' => some '\r'
  | 't' => some '\t'
  | _ => none

/-- What one character of a string leads to. -/
inductive StringMove where
  /-- The string is over. -/
  | closed
  /-- The reader goes on, possibly with one more character of the string. -/
  | goOn (added : Option Char) (next : StringState)

/-- What an escape by number, once complete, leads to.  Without `strict`,
halves of pairs may stand alone; they then stand for no character in
particular. -/
def endOfDigits (strict : Bool) (unit : Nat) (pending : Option Nat) :
    Except Problem StringMove :=
  match strict, pending with
  | false, _ => .ok (.goOn (some (Char.ofNat unit)) .plain)
  | true, none =>
      if isLowSurrogate unit then .error .illFormed
      else if isHighSurrogate unit then .ok (.goOn none (.pair unit))
      else .ok (.goOn (some (Char.ofNat unit)) .plain)
  | true, some high =>
      if isLowSurrogate unit then .ok (.goOn (some (joinSurrogates high unit)) .plain)
      else .error .illFormed

/-- Start an escape by number, for which four bytes have to be left. -/
def startDigits (rest : List Char) (pending : Option Nat) : Except Problem StringMove :=
  if utf8Length (rest.take 4) < 4 then .error .cutShort
  else .ok (.goOn none (.digits 4 0 pending))

/-- What the character `c` of a string leads to, when `rest` follows it. -/
def stringStep (strict : Bool) (state : StringState) (c : Char) (rest : List Char) :
    Except Problem StringMove :=
  match state with
  | .plain =>
      if c = '"' then .ok .closed
      else if c = '\\' then .ok (.goOn none .escape)
      else if c.toNat < 0x20 then .error .illFormed
      else .ok (.goOn (some c) .plain)
  | .escape =>
      if c = 'u' then
        startDigits rest none
      else
        match shortEscape? c with
        | some escaped => .ok (.goOn (some escaped) .plain)
        | none => .error .illFormed
  | .digits missing unit pending =>
      match hexDigitValue? c with
      | none => .error .illFormed
      | some digit =>
          if missing ≤ 1 then endOfDigits strict (16 * unit + digit) pending
          else .ok (.goOn none (.digits (missing - 1) (16 * unit + digit) pending))
  | .pair high =>
      if c = '\\' then .ok (.goOn none (.pairEscape high)) else .error .illFormed
  | .pairEscape high =>
      if c = 'u' then startDigits rest (some high) else .error .illFormed

/-- Read what is left of a string of which `reversed` is known, the last
character first. -/
def readStringFrom (strict : Bool) (reversed : List Char) :
    StringState → List Char → Except Problem (List Char × List Char)
  | _, [] => .error .cutShort
  | state, c :: rest =>
      match stringStep strict state c rest with
      | .error problem => .error problem
      | .ok .closed => .ok (reversed.reverse, rest)
      | .ok (.goOn added next) => readStringFrom strict (added.toList ++ reversed) next rest

/-- Read a string from behind its opening quote, and return its characters and
what follows its closing quote. -/
def readString (strict : Bool) (rest : List Char) : Except Problem (List Char × List Char) :=
  readStringFrom strict [] .plain rest

end Chip8.JsonText
