import Chip8.Machine.Call
import Chip8.Raw.FrameBuffer
import Chip8.Raw.Instruction
import Chip8.Raw.Memory
import Chip8.Raw.Parts

/-!
# The stored machine

The machine in words and arrays, changed in place.  A call yields a result and
the machine after it: what a call that fails has changed until then stays
changed.  Every access to an array and every sum is checked.
-/

namespace Chip8.Raw

/-- The state of a machine, as it is stored. -/
structure Machine where
  memory : Memory
  registers : Vector UInt8 16
  counter : UInt16
  index : UInt16
  stack : CallStack
  timers : Timers
  display : FrameBuffer
  flags : FlagRegisters
  keys : KeyLatch UInt8
  random : Random
  drawnBytes : UInt32
  deriving DecidableEq

/-- Where execution goes on after an instruction. -/
inductive Flow where
  | next
  | skip
  | jump (target : UInt16)
  deriving DecidableEq

/-- Where execution goes on after the instruction at an address. -/
def Flow.target (counter : UInt16) : Flow → UInt16
  | .next => counter + 2
  | .skip => counter + 4
  | .jump target => target

/-- How work on a machine ended, and the machine after it. -/
abbrev Attempt (Result : Type) := Except Fault Result × Machine

namespace Machine

/-- A machine that is about to start `program`. -/
def load (program : List UInt8) (seed initialFlags : UInt64) :
    Checked (Except Fault Machine) := do
  let fresh ← freshMemory
  let (loaded, memory) ← loadProgram fresh program
  return loaded.map fun _ => {
    memory := memory
    registers := Vector.replicate 16 0
    counter := programAddress
    index := 0
    stack := .empty
    timers := {}
    display := .blank
    flags := .ofPacked initialFlags
    keys := {}
    random := { seed := seed }
    drawnBytes := 0 }

/-! ## Registers -/

/-- The value of the register named by the low half of a byte. -/
def register (machine : Machine) (x : UInt8) : Checked UInt8 :=
  entryAt machine.registers (x &&& 0x0F).toNat

/-- Replace the value of the register named by the low half of a byte. -/
def setRegister (machine : Machine) (x value : UInt8) : Checked Machine := do
  let registers ← replaceAt machine.registers (x &&& 0x0F).toNat value
  return { machine with registers := registers }

def setWithFlag (machine : Machine) (x value : UInt8) (flag : Bool) : Checked Machine := do
  let machine ← machine.setRegister x value
  machine.setRegister 0xF (if flag then 1 else 0)

/-- Replace the value of a register by one worked out from registers. -/
def combine (machine : Machine) (x y : UInt8) (operation : UInt8 → UInt8 → UInt8) :
    Checked (Attempt Flow) := do
  let machine ← machine.setRegister x (operation (← machine.register x) (← machine.register y))
  return (.ok .next, machine)

/-- Replace the value of a register by one worked out from registers, with a
flag. -/
def combineWithFlag (machine : Machine) (x y : UInt8)
    (operation : UInt8 → UInt8 → UInt8 × Bool) : Checked (Attempt Flow) := do
  let (value, flag) := operation (← machine.register x) (← machine.register y)
  let machine ← machine.setWithFlag x value flag
  return (.ok .next, machine)

def skipWhen (machine : Machine) (condition : Bool) : Checked (Attempt Flow) :=
  return (.ok (if condition then .skip else .next), machine)

/-! ## Instructions -/

/-- The sum of two bytes, and whether it does not fit. -/
def addWithCarry (left right : UInt8) : UInt8 × Bool :=
  (left + right, UInt8.size ≤ left.toNat + right.toNat)

/-- The difference of two bytes, and whether nothing is borrowed. -/
def subtractWithoutBorrow (left right : UInt8) : UInt8 × Bool :=
  (left - right, !left < right)

def drawSprite (machine : Machine) (x y height : UInt8) : Checked (Attempt Flow) := do
  let rows ← rangeOf (Vector.replicate 16 0) 0 height.toNat
  let sprite ← readBytes machine.memory machine.index rows
  let (display, collision) ←
    machine.display.draw (← machine.register x) (← machine.register y) sprite
  let drawn ← { machine with display := display }.setRegister 0xF (if collision then 1 else 0)
  let drawnBytes := UInt32.ofNat (min (UInt32.size - 1) (drawn.drawnBytes.toNat + height.toNat))
  return (.ok .next, { drawn with drawnBytes := drawnBytes })

/-- Carry out an instruction and tell where to go on. -/
def execute (machine : Machine) : Instruction → Checked (Attempt Flow)
  | .clearScreen => return (.ok .next, { machine with display := machine.display.clear })
  | .returnToCaller => do
      let (target, stack) ← machine.stack.pop
      return (target.map .jump, { machine with stack := stack })
  | .jump target => return (.ok (.jump target), machine)
  | .call target => do
      let (pushed, stack) ← machine.stack.push ((machine.counter + 2) &&& addressMask)
      return (pushed.map fun _ => .jump target, { machine with stack := stack })
  | .skipIfByte x byte => do machine.skipWhen ((← machine.register x) = byte)
  | .skipUnlessByte x byte => do machine.skipWhen ((← machine.register x) ≠ byte)
  | .skipIfEqual x y => do machine.skipWhen ((← machine.register x) = (← machine.register y))
  | .skipUnlessEqual x y => do machine.skipWhen ((← machine.register x) ≠ (← machine.register y))
  | .setByte x byte => do return (.ok .next, ← machine.setRegister x byte)
  | .addByte x byte => machine.combine x x fun value _ => value + byte
  | .copy x y => machine.combine x y fun _ right => right
  | .or x y => machine.combine x y fun left right => left ||| right
  | .and x y => machine.combine x y fun left right => left &&& right
  | .xor x y => machine.combine x y fun left right => left ^^^ right
  | .add x y => machine.combineWithFlag x y addWithCarry
  | .subtract x y => machine.combineWithFlag x y subtractWithoutBorrow
  | .subtractFrom x y =>
      machine.combineWithFlag x y fun left right => subtractWithoutBorrow right left
  | .shiftRight x _ =>
      machine.combineWithFlag x x fun value _ => (value >>> 1, value &&& 0x01 ≠ 0)
  | .shiftLeft x _ =>
      machine.combineWithFlag x x fun value _ => (value <<< 1, value &&& 0x80 ≠ 0)
  | .setIndex target => return (.ok .next, { machine with index := target })
  | .jumpByV0 base => do
      return (.ok (.jump (base + (← machine.register 0).toUInt16)), machine)
  | .random x mask => do
      let (byte, random) := machine.random.next
      return (.ok .next, ← { machine with random := random }.setRegister x (byte &&& mask))
  | .draw x y height => machine.drawSprite x y height
  | .skipIfHeld x => do
      machine.skipWhen (← isPressed machine.keys (← machine.register x))
  | .skipUnlessHeld x => do
      machine.skipWhen !(← isPressed machine.keys (← machine.register x))
  | .readDelay x => do return (.ok .next, ← machine.setRegister x machine.timers.delay)
  | .awaitKey x => return (.ok .next, { machine with keys := machine.keys.waitFor x })
  | .setDelay x => do
      let value ← machine.register x
      return (.ok .next, { machine with timers := { machine.timers with delay := value } })
  | .setSound x => do
      let value ← machine.register x
      return (.ok .next, { machine with timers := { machine.timers with sound := value } })
  | .addToIndex x => do
      let distance ← machine.register x
      return (.ok .next,
        { machine with index := (machine.index + distance.toUInt16) &&& addressMask })
  | .locateGlyph x => do
      let address ← glyphAddress (← machine.register x)
      return (.ok .next, { machine with index := address })
  | .storeDigits x => do
      let value ← machine.register x
      let memory ← writeBytes machine.memory [value / 100, value / 10 % 10, value % 10]
        machine.index
      return (.ok .next, { machine with memory := memory })
  | .storeRegisters x => do
      let values ← rangeOf machine.registers 0 (x.toNat + 1)
      let memory ← writeBytes machine.memory values machine.index
      return (.ok .next, { machine with memory := memory })
  | .loadRegisters x => do
      let window ← rangeOf machine.registers 0 (x.toNat + 1)
      let values ← readBytes machine.memory machine.index window
      let registers ← replaceRange machine.registers 0 (x.toNat + 1) values
      return (.ok .next, { machine with registers := registers })
  | .saveFlags x => do
      let values ← rangeOf machine.registers 0 (x.toNat + 1)
      let (saved, flags) ← saveFlags machine.flags values
      return (saved.map fun _ => .next, { machine with flags := flags })
  | .restoreFlags x => do
      let window ← rangeOf machine.registers 0 (x.toNat + 1)
      let (restored, values) ← restoreFlags machine.flags window
      let registers ← replaceRange machine.registers 0 (x.toNat + 1) values
      return (restored.map fun _ => .next, { machine with registers := registers })

/-- Carry out an instruction.  The counter moves only if that succeeds. -/
def carryOut (machine : Machine) (instruction : Instruction) : Checked (Attempt Unit) := do
  match ← machine.execute instruction with
  | (.error fault, changed) => return (.error fault, changed)
  | (.ok flow, changed) =>
      return (.ok (), { changed with counter := flow.target machine.counter &&& addressMask })

def word (machine : Machine) : Checked UInt16 :=
  wordAt machine.memory machine.counter

/-- Carry out the instruction at the counter, unless the machine waits for a key. -/
def step (machine : Machine) : Checked (Attempt Unit) := do
  if machine.keys.isWaiting then
    return (.ok (), machine)
  else
    match decode (← machine.word) with
    | none => return (.error .illegalOpcode, machine)
    | some instruction => machine.carryOut instruction

/-! ## Calls -/

def tick (machine : Machine) : Machine :=
  { machine with timers := machine.timers.tick }

/-- Replace the keys held, and hand a key over to the register that waits. -/
def setKeys (machine : Machine) (mask : KeyMask) : Checked Machine :=
  match replaceMask machine.keys mask with
  | (none, keys) => return { machine with keys := keys }
  | (some (x, key), keys) => { machine with keys := keys }.setRegister x key

/-- Do one thing to a machine. -/
def answer (machine : Machine) : Machine.Call → Checked (Attempt Unit)
  | .step => machine.step
  | .tick => return (.ok (), machine.tick)
  | .setKeys mask => do return (.ok (), ← machine.setKeys mask)
  | .acknowledgeScreen => return (.ok (), { machine with display := machine.display.acknowledge })
  | .acknowledgeFlags => return (.ok (), { machine with flags := machine.flags.acknowledge })
  | .resetDrawnBytes => return (.ok (), { machine with drawnBytes := 0 })
  | .reset program seed initialFlags => do
      match ← load program seed initialFlags with
      | .error fault => return (.error fault, machine)
      | .ok fresh => return (.ok (), fresh)

/-- The state after a list of calls, whatever their results are. -/
def afterAll (machine : Machine) : List Machine.Call → Checked Machine
  | [] => return machine
  | call :: rest => do
      let (_, next) ← machine.answer call
      next.afterAll rest

end Machine

end Chip8.Raw
