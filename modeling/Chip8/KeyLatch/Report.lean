import Chip8.KeyLatch
import Chip8.Log
import Chip8.Text.Hex

/-!
# What a key latch reports

The beginning and the end of a wait for a key.  The place that waits is shown
as a register by its number.
-/

namespace Chip8.KeyLatch

/-- The records of beginning to wait on behalf of the register with a number. -/
def waitRecords (number : Nat) : List Record :=
  [⟨.debug, "waiting for key into V" ++ Text.upperHex number⟩]

/-- The records of a change of the mask.  `number` tells which register a
place is. -/
def deliveryRecords {Target : Type} (number : Target → Nat) (latch : KeyLatch Target)
    (mask : KeyMask) : List Record :=
  match latch.delivery? mask with
  | none => []
  | some (target, key) =>
      [⟨.debug, "key " ++ Text.upperHex key ++ " released wait on V"
        ++ Text.upperHex (number target)⟩]

end Chip8.KeyLatch
