import Chip8.CallStack
import Chip8.FlagRegisters
import Chip8.KeyLatch
import Chip8.Memory
import Chip8.Random
import Chip8.Screen
import Chip8.Timers

/-!
# The machine

Everything that a program can see or change, in one value.  Nothing in it
knows about time: what a machine does is determined by the program, the seed,
the flags it starts with and the calls made on it.
-/

namespace Chip8

/-- The state of the machine. -/
structure Machine where
  memory : Memory
  registers : Vector UInt8 16
  counter : Address
  index : Address
  stack : CallStack Address
  timers : Timers
  screen : Screen
  flags : FlagRegisters
  keys : KeyLatch Register
  random : Random
  drawnBytes : Nat
  deriving DecidableEq

namespace Machine

/-- The largest value of the counter of drawn bytes, where it stays. -/
def maxDrawnBytes : Nat := UInt32.size - 1

/-- A machine that is about to start `program`.  The flags are handed over in
their packed form. -/
def load (program : List UInt8) (seed initialFlags : UInt64) : Except Fault Machine :=
  match Memory.fresh.loadProgram program with
  | .error fault => .error fault
  | .ok memory => .ok {
      memory := memory
      registers := Vector.replicate 16 0
      counter := Memory.programStart
      index := .zero
      stack := .empty .zero
      timers := {}
      screen := .blank
      flags := .ofPacked initialFlags
      keys := {}
      random := { seed := seed }
      drawnBytes := 0 }

/-! ## Registers -/

def register (machine : Machine) (x : Register) : UInt8 :=
  machine.registers[x]

def setRegister (machine : Machine) (x : Register) (value : UInt8) : Machine :=
  { machine with registers := machine.registers.set x value }

/-- Store a result and then its flag in VF, so that VF holds the flag also if
the result is meant for VF. -/
def setWithFlag (machine : Machine) (x : Register) (value : UInt8) (flag : Bool) : Machine :=
  (machine.setRegister x value).setRegister .vF (if flag then 1 else 0)

/-- The values of V0 to VX. -/
def registersUpTo (machine : Machine) (x : Register) : List UInt8 :=
  machine.registers.toList.take (x + 1)

/-- Replace the values of the first registers. -/
def setFirstRegisters (machine : Machine) (values : List UInt8) : Machine :=
  { machine with
    registers := Vector.ofFn fun x => values.getD x machine.registers[x] }

theorem register_setRegister (machine : Machine) (x other : Register) (value : UInt8) :
    (machine.setRegister x value).register other
      = if x = other then value else machine.register other := by
  by_cases hsame : x = other
  · subst hsame
    simp [register, setRegister]
  · have hval : x.val ≠ other.val := fun hval => hsame (Fin.ext hval)
    rw [if_neg hsame]
    exact Vector.getElem_set_ne x.isLt other.isLt hval

@[simp] theorem length_registersUpTo (machine : Machine) (x : Register) :
    (machine.registersUpTo x).length = x.val + 1 := by
  simp only [registersUpTo, List.length_take, Vector.length_toList]
  omega

/-! ## What the host looks at -/

/-- The word that the next step executes, or that the last one failed on. -/
def word (machine : Machine) : UInt16 :=
  machine.memory.word machine.counter

/-- Whether execution is held up until a key goes down. -/
def isWaiting (machine : Machine) : Bool :=
  machine.keys.isWaiting

/-- Whether the tone should be heard. -/
def isSounding (machine : Machine) : Bool :=
  machine.timers.isSounding

/-- The bytes that the memory, the screen, the registers, the stack, the flag
registers and the timers take together. -/
def storageBytes : Nat :=
  4096 + 256 + 16 + 2 * CallStack.capacity + 8 + 2

end Machine

end Chip8
