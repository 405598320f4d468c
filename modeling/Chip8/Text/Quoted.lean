import Chip8.Text.Unshown

/-!
# Quoted characters

A single character between quotes, as log records show it.
-/

namespace Chip8.Text

/-- A character inside the quotes.  The quote itself, the backslash and a few
control characters have a short escape, and characters that cannot be shown
are given by number. -/
def escapeChar (c : Char) : String :=
  if c = '\x00' then "\\0"
  else if c = '\t' then "\\t"
  else if c = '\r' then "\\r"
  else if c = '\n' then "\\n"
  else if c = '\'' then "\\'"
  else if c = '\\' then "\\\\"
  else if isUnshown c then
    "\\u\x7b" ++ String.ofList (Nat.toDigits 16 c.toNat) ++ "\x7d"
  else String.singleton c

def quoteChar (c : Char) : String :=
  "'" ++ escapeChar c ++ "'"

end Chip8.Text
