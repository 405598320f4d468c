import Chip8.Address

/-!
# The key latch

Which of the sixteen keys are held, and whether the machine waits for the next
one to go down.  A key that was held before the wait began ends it only after
it has been released and pressed again.
-/

namespace Chip8

/-- The keys held, one bit for each, with bit 0 for key 0. -/
abbrev KeyMask := UInt16

def KeyMask.holds (mask : KeyMask) (key : Key) : Bool :=
  mask.toNat.testBit key

/-- The keys that are in `next` and not in `previous`. -/
def KeyMask.newlyHeld (previous next : KeyMask) : List Key :=
  (List.finRange 16).filter fun key => KeyMask.holds next key && !KeyMask.holds previous key

/-- The state of the keys.  While a wait is pending, `waiting` names the place
that the key is meant for. -/
structure KeyLatch (Target : Type) where
  mask : KeyMask := 0
  waiting : Option Target := none
  deriving DecidableEq

namespace KeyLatch

variable {Target : Type}

/-- Whether the key named by the low half of `key` is held. -/
def isPressed (latch : KeyLatch Target) (key : UInt8) : Bool :=
  KeyMask.holds latch.mask (lowNibble key)

def isWaiting (latch : KeyLatch Target) : Bool :=
  latch.waiting.isSome

/-- Wait for the next key on behalf of `target`. -/
def waitFor (latch : KeyLatch Target) (target : Target) : KeyLatch Target :=
  { latch with waiting := some target }

/-- The key that ends a pending wait when the mask becomes `mask`: the lowest
one that goes down, together with the place it is meant for. -/
def delivery? (latch : KeyLatch Target) (mask : KeyMask) : Option (Target × Key) :=
  match latch.waiting, KeyMask.newlyHeld latch.mask mask with
  | some target, key :: _ => some (target, key)
  | _, _ => none

/-- Replace the mask, which ends a pending wait if a key goes down. -/
def setKeys (latch : KeyLatch Target) (mask : KeyMask) : KeyLatch Target where
  mask := mask
  waiting := if (latch.delivery? mask).isSome then none else latch.waiting

end KeyLatch

end Chip8
