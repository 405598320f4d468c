import Chip8.Fault

/-!
# Flag registers

Eight bytes that outlive a run if somebody keeps them.  They are handed over
as one 64-bit number with flag `i` in the bits `8 * i` to `8 * i + 7`.
-/

namespace Chip8

/-- The flag registers, and whether they were stored to since this was last
acknowledged. -/
structure FlagRegisters where
  bytes : Vector UInt8 8
  dirty : Bool := false
  deriving DecidableEq

namespace FlagRegisters

/-- Byte `position` of a 64-bit number, counted from the low end. -/
def byteOf (packed : UInt64) (position : Nat) : UInt8 :=
  UInt8.ofNat (packed.toNat >>> (8 * position))

/-- The flags held by a packed number.  They are clean: whoever hands them
over has them. -/
def ofPacked (packed : UInt64) : FlagRegisters where
  bytes := Vector.ofFn fun position => byteOf packed position

/-- The number that bytes stand for, low byte first. -/
def littleEndian : List UInt8 → Nat
  | [] => 0
  | byte :: rest => byte.toNat + 256 * littleEndian rest

/-- All flags in one number. -/
def packed (flags : FlagRegisters) : UInt64 :=
  UInt64.ofNat (littleEndian flags.bytes.toList)

/-- Replace the first flags by `values`. -/
def save (flags : FlagRegisters) (values : List UInt8) : Except Fault FlagRegisters :=
  if values.length ≤ 8 then
    .ok {
      bytes := Vector.ofFn fun position => values.getD position flags.bytes[position]
      dirty := true }
  else
    .error .flagOverflow

/-- The first `count` flags. -/
def restore (flags : FlagRegisters) (count : Nat) : Except Fault (List UInt8) :=
  if count ≤ 8 then
    .ok (flags.bytes.toList.take count)
  else
    .error .flagOverflow

theorem save_error_iff {flags : FlagRegisters} {values : List UInt8} {fault : Fault} :
    flags.save values = .error fault ↔ fault = .flagOverflow ∧ 8 < values.length := by
  unfold save
  by_cases hfits : values.length ≤ 8
  · simp [hfits, Nat.not_lt.mpr hfits]
  · simp [hfits, Nat.lt_of_not_le hfits, eq_comm]

theorem restore_error_iff {flags : FlagRegisters} {count : Nat} {fault : Fault} :
    flags.restore count = .error fault ↔ fault = .flagOverflow ∧ 8 < count := by
  unfold restore
  by_cases hfits : count ≤ 8
  · simp [hfits, Nat.not_lt.mpr hfits]
  · simp [hfits, Nat.lt_of_not_le hfits, eq_comm]

/-- Take note of everything stored so far. -/
def acknowledge (flags : FlagRegisters) : FlagRegisters :=
  { flags with dirty := false }

end FlagRegisters

end Chip8
