import Chip8.Instruction.Encoding
import Chip8.Machine

/-!
# Execution

`Machine.step` carries out the instruction at the program counter.  While the
machine waits for a key it does nothing, and if the instruction fails there is
no next state, so that the old one stays as it was.
-/

namespace Chip8.Machine

/-- Go on with the next instruction. -/
def advance (machine : Machine) : Machine :=
  { machine with counter := machine.counter.offset 2 }

/-- Go on with the next instruction, or with the one after it if `condition`
holds. -/
def skipWhen (machine : Machine) (condition : Bool) : Machine :=
  { machine with counter := machine.counter.offset (if condition then 4 else 2) }

/-- Go on at an address. -/
def goTo (machine : Machine) (target : Address) : Machine :=
  { machine with counter := target }

/-- Draw the sprite of `height` bytes at the index. -/
def drawSprite (machine : Machine) (x y : Register) (height : Fin 16) : Machine :=
  let sprite := machine.memory.readBlock machine.index height
  let (screen, collision) := machine.screen.draw (machine.register x) (machine.register y) sprite
  let drawn : Machine := { machine with
    screen := screen
    drawnBytes := min maxDrawnBytes (machine.drawnBytes + height) }
  drawn.setRegister .vF (if collision then 1 else 0)

/-- The hundreds, tens and units of a byte. -/
def decimalDigits (byte : UInt8) : List UInt8 :=
  [byte / 100, byte / 10 % 10, byte % 10]

/-- Carry out an instruction.  Results are worked out from the registers as
they were before it. -/
def execute (machine : Machine) : Instruction → Except Fault Machine
  | .clearScreen =>
      .ok { machine with screen := machine.screen.clear }.advance
  | .returnToCaller =>
      match machine.stack.pop with
      | .error fault => .error fault
      | .ok (target, stack) => .ok ({ machine with stack := stack }.goTo target)
  | .jump target => .ok (machine.goTo target)
  | .call target =>
      match machine.stack.push (machine.counter.offset 2) with
      | .error fault => .error fault
      | .ok stack => .ok ({ machine with stack := stack }.goTo target)
  | .skipIfByte x byte => .ok (machine.skipWhen (machine.register x = byte))
  | .skipUnlessByte x byte => .ok (machine.skipWhen (machine.register x ≠ byte))
  | .skipIfEqual x y => .ok (machine.skipWhen (machine.register x = machine.register y))
  | .skipUnlessEqual x y => .ok (machine.skipWhen (machine.register x ≠ machine.register y))
  | .setByte x byte => .ok (machine.setRegister x byte).advance
  | .addByte x byte => .ok (machine.setRegister x (machine.register x + byte)).advance
  | .copy x y => .ok (machine.setRegister x (machine.register y)).advance
  | .or x y => .ok (machine.setRegister x (machine.register x ||| machine.register y)).advance
  | .and x y => .ok (machine.setRegister x (machine.register x &&& machine.register y)).advance
  | .xor x y => .ok (machine.setRegister x (machine.register x ^^^ machine.register y)).advance
  | .add x y =>
      let left := machine.register x
      let right := machine.register y
      .ok (machine.setWithFlag x (left + right) (256 ≤ left.toNat + right.toNat)).advance
  | .subtract x y =>
      let left := machine.register x
      let right := machine.register y
      .ok (machine.setWithFlag x (left - right) (right ≤ left)).advance
  | .subtractFrom x y =>
      let left := machine.register y
      let right := machine.register x
      .ok (machine.setWithFlag x (left - right) (right ≤ left)).advance
  | .shiftRight x _ =>
      let value := machine.register x
      .ok (machine.setWithFlag x (value >>> 1) (value.toNat.testBit 0)).advance
  | .shiftLeft x _ =>
      let value := machine.register x
      .ok (machine.setWithFlag x (value <<< 1) (value.toNat.testBit 7)).advance
  | .setIndex target => .ok { machine with index := target }.advance
  | .jumpByV0 base => .ok (machine.goTo (base.offset (machine.register .v0).toNat))
  | .random x mask =>
      let (byte, random) := machine.random.next
      .ok ({ machine with random := random }.setRegister x (byte &&& mask)).advance
  | .draw x y height => .ok (machine.drawSprite x y height).advance
  | .skipIfHeld x => .ok (machine.skipWhen (machine.keys.isPressed (machine.register x)))
  | .skipUnlessHeld x => .ok (machine.skipWhen (!machine.keys.isPressed (machine.register x)))
  | .readDelay x => .ok (machine.setRegister x machine.timers.delay).advance
  | .awaitKey x => .ok { machine with keys := machine.keys.waitFor x }.advance
  | .setDelay x =>
      .ok { machine with timers := { machine.timers with delay := machine.register x } }.advance
  | .setSound x =>
      .ok { machine with timers := { machine.timers with sound := machine.register x } }.advance
  | .addToIndex x =>
      .ok { machine with index := machine.index.offset (machine.register x).toNat }.advance
  | .locateGlyph x =>
      .ok { machine with index := Memory.glyphAddress (machine.register x) }.advance
  | .storeDigits x =>
      let digits := decimalDigits (machine.register x)
      .ok { machine with memory := machine.memory.writeBlock machine.index digits }.advance
  | .storeRegisters x =>
      let values := machine.registersUpTo x
      .ok { machine with memory := machine.memory.writeBlock machine.index values }.advance
  | .loadRegisters x =>
      .ok (machine.setFirstRegisters (machine.memory.readBlock machine.index (x + 1))).advance
  | .saveFlags x =>
      match machine.flags.save (machine.registersUpTo x) with
      | .error fault => .error fault
      | .ok flags => .ok { machine with flags := flags }.advance
  | .restoreFlags x =>
      match machine.flags.restore (x + 1) with
      | .error fault => .error fault
      | .ok values => .ok (machine.setFirstRegisters values).advance

/-- Carry out the instruction at the program counter. -/
def step (machine : Machine) : Except Fault Machine :=
  if machine.isWaiting then
    .ok machine
  else
    match Instruction.decode? machine.word with
    | none => .error .illegalOpcode
    | some instruction => machine.execute instruction

/-- How a number of steps went. -/
structure Progress where
  /-- How many of them succeeded. -/
  done : Nat
  /-- Why they ended early, if they did. -/
  failure : Option Fault
  /-- The state after the last success. -/
  machine : Machine

/-- Up to `count` steps after `done` others, stopping at the first that fails. -/
def stepsFrom (machine : Machine) (done : Nat) : Nat → Progress
  | 0 => ⟨done, none, machine⟩
  | count + 1 =>
      match machine.step with
      | .error fault => ⟨done, some fault, machine⟩
      | .ok next => next.stepsFrom (done + 1) count

/-- Up to `count` steps, stopping at the first that fails. -/
def steps (machine : Machine) (count : Nat) : Progress :=
  machine.stepsFrom 0 count

/-- While the machine waits for a key, steps do nothing. -/
theorem stepsFrom_of_waiting {machine : Machine} (hwaiting : machine.isWaiting = true)
    (done count : Nat) : machine.stepsFrom done count = ⟨done + count, none, machine⟩ := by
  induction count generalizing done with
  | zero => rfl
  | succ count ih =>
      have hstep : machine.step = .ok machine := by rw [step, if_pos hwaiting]
      rw [stepsFrom, hstep]
      show machine.stepsFrom (done + 1) count = _
      rw [ih, Nat.add_right_comm, Nat.add_assoc]

end Chip8.Machine
