import Chip8.FlagRegisters
import Chip8.KeyLatch
import Chip8.Raw.Checked

/-!
# The parts of a stored machine

The call stack, the flag registers and the key latch.  Each operation yields a
result and the part after it, also when the result is a fault, so that nothing
but the operation itself decides what a fault leaves behind.
-/

namespace Chip8.Raw

/-! ## The call stack -/

/-- Slots for return addresses, and the index of the first one that is free. -/
structure CallStack where
  frames : Vector UInt16 16
  pointer : Nat
  deriving DecidableEq

namespace CallStack

def empty : CallStack where
  frames := Vector.replicate 16 0
  pointer := 0

def push (stack : CallStack) (address : UInt16) : Checked (Except Fault Unit × CallStack) :=
  if stack.pointer = 16 then
    return (.error .stackOverflow, stack)
  else do
    let frames ← replaceAt stack.frames stack.pointer address
    let pointer ← asSize (stack.pointer + 1)
    return (.ok (), ⟨frames, pointer⟩)

def pop (stack : CallStack) : Checked (Except Fault UInt16 × CallStack) :=
  if stack.pointer = 0 then
    return (.error .badReturn, stack)
  else do
    let pointer ← oneLess stack.pointer
    let address ← entryAt stack.frames pointer
    return (.ok address, { stack with pointer := pointer })

end CallStack

/-! ## The flag registers -/

/-- Copy registers into the first flags, of which there are eight. -/
def saveFlags (flags : FlagRegisters) (registers : List UInt8) :
    Checked (Except Fault Unit × FlagRegisters) :=
  if 8 < registers.length then
    return (.error .flagOverflow, flags)
  else do
    let bytes ← replaceRange flags.bytes 0 registers.length registers
    return (.ok (), { bytes := bytes, dirty := true })

/-- Copy the first flags into registers. -/
def restoreFlags (flags : FlagRegisters) (registers : List UInt8) :
    Checked (Except Fault Unit × List UInt8) :=
  if 8 < registers.length then
    return (.error .flagOverflow, registers)
  else do
    let saved ← rangeOf flags.bytes 0 registers.length
    let registers ← copyOnto registers saved
    return (.ok (), registers)

/-! ## The key latch -/

def isPressed (latch : KeyLatch UInt8) (key : UInt8) : Checked Bool := do
  let bit ← wordBit (key &&& 0x0F).toNat
  return latch.mask &&& bit ≠ 0

/-- Replace the mask.  A pending wait ends if some key goes down, and the lowest
such key is handed over for the register that waits. -/
def replaceMask (latch : KeyLatch UInt8) (mask : KeyMask) :
    Option (UInt8 × UInt8) × KeyLatch UInt8 :=
  let pressed := mask &&& ~~~latch.mask
  match latch.waiting with
  | some x =>
      if pressed ≠ 0 then
        (some (x, UInt8.ofNat (trailingZeros pressed)), { mask := mask, waiting := none })
      else
        (none, { latch with mask := mask })
  | none => (none, { latch with mask := mask })

end Chip8.Raw
