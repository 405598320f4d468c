import Chip8.JsonText.Number

/-!
# Values in JSON text

Values that are of no interest are skipped, as long as they are well-formed;
values of the wrong kind are refused.
-/

namespace Chip8.JsonText

/-! ## Skipping values -/

/-- Skip at least one digit.  A text that stops here is not well-formed. -/
def skipDigits (rest : List Char) : Except Problem (List Char) :=
  match rest with
  | c :: _ => if c.isDigit then .ok (rest.dropWhile Char.isDigit) else .error .illFormed
  | [] => .error .illFormed

/-- Skip the whole part of a number, which has no leading zero. -/
def skipWholePart (rest : List Char) : Except Problem (List Char) :=
  match rest with
  | '0' :: c :: _ => if c.isDigit then .error .illFormed else .ok rest.tail
  | rest => skipDigits rest

def skipExponent (rest : List Char) : Except Problem (List Char) :=
  match rest with
  | 'e' :: rest | 'E' :: rest => skipDigits (exponentSign rest).2
  | rest => .ok rest

/-- Skip a number without its sign, of any size. -/
def skipNumber (rest : List Char) : Except Problem (List Char) :=
  match skipWholePart rest with
  | .error problem => .error problem
  | .ok ('.' :: rest) =>
      match skipDigits rest with
      | .error problem => .error problem
      | .ok rest => skipExponent rest
  | .ok rest => skipExponent rest

/-- Skip a value that is neither a list nor an object. -/
def skipScalar (rest : List Char) : Except Problem (List Char) :=
  match rest with
  | [] => .error .cutShort
  | 'n' :: rest => skipWord ['u', 'l', 'l'] rest
  | 't' :: rest => skipWord ['r', 'u', 'e'] rest
  | 'f' :: rest => skipWord ['a', 'l', 's', 'e'] rest
  | '"' :: rest => (readString false rest).map Prod.snd
  | '-' :: rest => skipNumber rest
  | c :: _ => if c.isDigit then skipNumber rest else .error .illFormed

/-- Skip the name of a member and the colon behind it. -/
def skipMemberName (rest : List Char) : Except Problem (List Char) :=
  match skipMark '"' rest with
  | .error problem => .error problem
  | .ok rest =>
      match readString false rest with
      | .error problem => .error problem
      | .ok (_, rest) => skipMark ':' rest

mutual

/-- Skip one value, nested at most `fuel` deep. -/
def skipValue : Nat → List Char → Except Problem (List Char)
  | 0, _ => .error .illFormed
  | fuel + 1, rest =>
      match skipBlanks rest with
      | '[' :: rest =>
          match skipBlanks rest with
          | ']' :: rest => .ok rest
          | rest => skipItems fuel rest
      | '\x7b' :: rest =>
          match skipBlanks rest with
          | '\x7d' :: rest => .ok rest
          | rest => skipMembers fuel rest
      | rest => skipScalar rest

/-- Skip the items of a list from the next one on, and its closing bracket. -/
def skipItems : Nat → List Char → Except Problem (List Char)
  | 0, _ => .error .illFormed
  | fuel + 1, rest =>
      match skipValue fuel rest with
      | .error problem => .error problem
      | .ok rest =>
          match skipBlanks rest with
          | [] => .error .cutShort
          | ',' :: rest => skipItems fuel rest
          | ']' :: rest => .ok rest
          | _ => .error .illFormed

/-- Skip the members of an object from the next one on, and its closing brace. -/
def skipMembers : Nat → List Char → Except Problem (List Char)
  | 0, _ => .error .illFormed
  | fuel + 1, rest =>
      match skipMemberName rest with
      | .error problem => .error problem
      | .ok rest =>
          match skipValue fuel rest with
          | .error problem => .error problem
          | .ok rest =>
              match skipBlanks rest with
              | [] => .error .cutShort
              | ',' :: rest => skipMembers fuel rest
              | '\x7d' :: rest => .ok rest
              | _ => .error .illFormed

end

/-- The fuel to skip any value of a text.  Every item or member and every level
of nesting takes at least one character and at most two steps. -/
def fuelFor (text : List Char) : Nat :=
  2 * text.length + 2

/-! ## Values of the wrong kind -/

/-- The problem of a value that stands where another kind is needed.  A
scalar is read first, and what is wrong with it then counts. -/
def problemOfKind (rest : List Char) : Problem :=
  let ofScalar : Except Problem (List Char) :=
    match rest with
    | [] => .error .cutShort
    | '[' :: _ | '\x7b' :: _ => .ok []
    | 'n' :: _ | 't' :: _ | 'f' :: _ => skipScalar rest
    | '"' :: rest => (readString true rest).map Prod.snd
    | c :: _ =>
        if c = '-' || c.isDigit then (readNumber rest).map Prod.snd else .error .illFormed
  match ofScalar with
  | .error problem => problem
  | .ok _ => .wrongKind

/-! ## Lists of a fixed length -/

/-- Skip to the next item of a list, over the comma before it unless it is the
first.  Without a next item the list is too short. -/
def skipToItem (isFirst : Bool) (rest : List Char) : Except Problem (List Char) :=
  match skipBlanks rest with
  | [] => .error .cutShort
  | ']' :: _ => .error .wrongKind
  | ',' :: rest =>
      if isFirst then .ok (',' :: rest)
      else
        match skipBlanks rest with
        | [] => .error .cutShort
        | ']' :: _ => .error .illFormed
        | rest => .ok rest
  | rest => if isFirst then .ok rest else .error .illFormed

/-- Read `count` items from behind an opening bracket, and the closing one. -/
def readItems {Item : Type} (readItem : List Char → Except Problem (Item × List Char)) :
    Nat → Bool → List Char → Except Problem (List Item × List Char)
  | 0, _, rest =>
      match skipMark ']' rest with
      | .error problem => .error problem
      | .ok rest => .ok ([], rest)
  | count + 1, isFirst, rest =>
      match skipToItem isFirst rest with
      | .error problem => .error problem
      | .ok rest =>
          match readItem rest with
          | .error problem => .error problem
          | .ok (item, rest) =>
              match readItems readItem count false rest with
              | .error problem => .error problem
              | .ok (items, rest) => .ok (item :: items, rest)

/-- Read a list of exactly `count` items. -/
def readList {Item : Type} (readItem : List Char → Except Problem (Item × List Char))
    (count : Nat) (rest : List Char) : Except Problem (List Item × List Char) :=
  match skipBlanks rest with
  | '[' :: rest => readItems readItem count true rest
  | rest => .error (problemOfKind rest)

/-- Read a whole number below 256. -/
def readByte (rest : List Char) : Except Problem (UInt8 × List Char) :=
  match skipBlanks rest with
  | [] => .error .cutShort
  | c :: rest =>
      if c = '-' || c.isDigit then
        match readNumber (c :: rest) with
        | .error problem => .error problem
        | .ok (.whole value, rest) =>
            if value < 256 then .ok (UInt8.ofNat value, rest) else .error .wrongKind
        | .ok (.other, _) => .error .wrongKind
      else
        .error (problemOfKind (c :: rest))

end Chip8.JsonText
