/-!
# Addresses, registers and keys

The numbers with which instructions name things.  Addresses wrap modulo the
size of memory, so no access can leave it.
-/

namespace Chip8

/-- A cell of memory. -/
abbrev Address := Fin 4096

namespace Address

/-- The cell that a number of any size names, modulo 4096. -/
def ofNat (number : Nat) : Address :=
  Fin.ofNat 4096 number

def zero : Address := ofNat 0

/-- The cell a number of places further on, where the last cell is followed by
the first. -/
def offset (address : Address) (distance : Nat) : Address :=
  ofNat (address.val + distance)

@[simp] theorem val_offset (address : Address) (distance : Nat) :
    (address.offset distance).val = (address.val + distance) % 4096 := rfl

/-- Two distances add up. -/
@[simp] theorem offset_offset (address : Address) (first second : Nat) :
    (address.offset first).offset second = address.offset (first + second) := by
  apply Fin.ext
  simp only [val_offset]
  omega

@[simp] theorem offset_zero (address : Address) : address.offset 0 = address := by
  apply Fin.ext
  simp only [val_offset]
  omega

end Address

/-- One of the sixteen registers V0 to VF. -/
abbrev Register := Fin 16

namespace Register

/-- The register that is added to the target of a computed jump. -/
def v0 : Register := ⟨0x0, by decide⟩

/-- The register that receives carries, lost bits and collisions. -/
def vF : Register := ⟨0xF, by decide⟩

end Register

/-- One of the sixteen keys 0 to F. -/
abbrev Key := Fin 16

/-- The last hexadecimal digit of a number. -/
def lastDigit (number : Nat) : Fin 16 :=
  Fin.ofNat 16 number

/-- The low half of a byte, which is all that counts where a byte names a key
or a glyph. -/
def lowNibble (byte : UInt8) : Fin 16 :=
  lastDigit byte.toNat

end Chip8
