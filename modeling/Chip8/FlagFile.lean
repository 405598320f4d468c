import Chip8.FlagRegisters
import Chip8.JsonText.Value

/-!
# The flag file

The flag registers are kept in a text file, as a JSON object whose only
member `flags` is the list of the eight bytes.  They are written without
blanks.  Reading is more lenient: it allows blanks and further members, and a
list that holds just the list of bytes may stand for the object.
-/

namespace Chip8.FlagFile

open JsonText

/-! ## Writing -/

/-- Bytes in decimal, with commas between them. -/
def commaSeparated : List UInt8 → String
  | [] => ""
  | [byte] => Nat.repr byte.toNat
  | byte :: rest => Nat.repr byte.toNat ++ "," ++ commaSeparated rest

/-- The text of the file that keeps `packed`. -/
def render (packed : UInt64) : String :=
  "\x7b\"flags\":[" ++ commaSeparated (FlagRegisters.ofPacked packed).bytes.toList ++ "]\x7d"

/-! ## Reading -/

def flagCount : Nat := 8

def readFlags : List Char → Except Problem (List UInt8 × List Char) :=
  readList readByte flagCount

def memberName : List Char := ['f', 'l', 'a', 'g', 's']

/-- Skip over the comma before a member, unless it is the first, and over the
quote that opens its name. -/
def skipToName (isFirst : Bool) (rest : List Char) : Except Problem (List Char) :=
  if isFirst then
    skipMark '"' rest
  else
    match skipMark ',' rest with
    | .error problem => .error problem
    | .ok rest => skipMark '"' rest

/-- Read the members of an object from the next one on, and its closing brace.
`found` are the flags, once they have been read; they must come exactly once.
A member takes more than one character, so what is left of the fuel is still
enough for its value. -/
def readMembers : Nat → Bool → Option (List UInt8) → List Char →
    Except Problem (List UInt8 × List Char)
  | 0, _, _, _ => .error .illFormed
  | fuel + 1, isFirst, found, rest =>
      match skipBlanks rest, found with
      | [], _ => .error .cutShort
      | '\x7d' :: _, none => .error .wrongKind
      | '\x7d' :: rest, some flags => .ok (flags, rest)
      | rest, _ =>
          match skipToName isFirst rest with
          | .error problem => .error problem
          | .ok rest =>
              match readString true rest with
              | .error problem => .error problem
              | .ok (name, rest) =>
                  if name = memberName ∧ found.isSome then
                    .error .wrongKind
                  else
                    match skipMark ':' rest with
                    | .error problem => .error problem
                    | .ok rest =>
                        if name = memberName then
                          match readFlags rest with
                          | .error problem => .error problem
                          | .ok (flags, rest) => readMembers fuel false (some flags) rest
                        else
                          match skipValue fuel rest with
                          | .error problem => .error problem
                          | .ok rest => readMembers fuel false found rest

def readFile (rest : List Char) : Except Problem (List UInt8 × List Char) :=
  match skipBlanks rest with
  | '\x7b' :: rest => readMembers (fuelFor rest) true none rest
  | '[' :: rest =>
      match readItems readFlags 1 true rest with
      | .error problem => .error problem
      | .ok (lists, rest) => .ok (lists.flatten, rest)
  | rest => .error (problemOfKind rest)

/-- The flags that a text keeps, in their packed form.  Nothing but blanks may
follow the value. -/
def parse (text : String) : Except Problem UInt64 :=
  match readFile text.toList with
  | .error problem => .error problem
  | .ok (flags, rest) =>
      if (skipBlanks rest).isEmpty then
        .ok (UInt64.ofNat (FlagRegisters.littleEndian flags))
      else
        .error .illFormed

end Chip8.FlagFile
