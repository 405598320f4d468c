import Chip8.Raw.Machine

/-!
# What a stored machine stands for

The machine whose addresses, registers and pixels a stored machine keeps in
words and bytes.  Words that are too large for what they name count modulo its
size.
-/

namespace Chip8.Raw

/-- The address that the low twelve bits of a word name. -/
def addressOf (word : UInt16) : Address :=
  Address.ofNat word.toNat

/-- The pixels that the bytes of a screen stand for. -/
def FrameBuffer.view (buffer : FrameBuffer) : Screen where
  pixels := Vector.ofFn fun index : Fin 2048 =>
    have hbyte : index.val / 8 < 256 := by omega
    buffer.bytes[index.val / 8].toNat.testBit (index.val % 8)
  dirty := buffer.dirty

/-- The stack of the addresses that the words of a stack stand for. -/
def CallStack.view (stack : CallStack) : Chip8.CallStack Address where
  slots := stack.frames.map addressOf
  depth := min stack.pointer 16
  depth_le := Nat.min_le_right ..

/-- The key latch of the register that the byte of a latch names. -/
def keysView (latch : KeyLatch UInt8) : KeyLatch Register where
  mask := latch.mask
  waiting := latch.waiting.map fun x => lastDigit x.toNat

/-- The machine that a stored machine stands for. -/
def Machine.view (machine : Machine) : Chip8.Machine where
  memory := machine.memory
  registers := machine.registers
  counter := addressOf machine.counter
  index := addressOf machine.index
  stack := machine.stack.view
  timers := machine.timers
  screen := machine.display.view
  flags := machine.flags
  keys := keysView machine.keys
  random := machine.random
  drawnBytes := machine.drawnBytes.toNat

end Chip8.Raw
