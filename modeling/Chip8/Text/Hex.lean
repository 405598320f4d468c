/-!
# Hexadecimal text

Addresses, words and bytes are shown in hexadecimal with a fixed number of
digits, so that two numbers of the same kind have texts of the same length.
-/

namespace Chip8.Text

/-- The last `width` hexadecimal digits of `value`, lower case, the most
significant one first. -/
def hexDigits : Nat → Nat → List Char
  | 0, _ => []
  | width + 1, value => hexDigits width (value / 16) ++ [Nat.digitChar (value % 16)]

/-- `value` in exactly `width` lower-case hexadecimal digits. -/
def hex (width value : Nat) : String :=
  String.ofList (hexDigits width value)

/-- A single hexadecimal digit in upper case, as registers and keys are named. -/
def nibble (digit : Fin 16) : String :=
  String.singleton (Nat.digitChar digit).toUpper

/-- `value` in upper-case hexadecimal digits, as many as it needs. -/
def upperHex (value : Nat) : String :=
  String.ofList ((Nat.toDigits 16 value).map Char.toUpper)

@[simp] theorem length_hexDigits (width value : Nat) :
    (hexDigits width value).length = width := by
  induction width generalizing value with
  | zero => rfl
  | succ width ih => simp [hexDigits, ih]

end Chip8.Text
