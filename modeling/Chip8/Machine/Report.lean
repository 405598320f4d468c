import Chip8.Instruction.Assembly
import Chip8.KeyLatch.Report
import Chip8.Machine.Call

/-!
# What a machine reports

The log records of the calls on a machine: every instruction at the finest
level, and at the next one what went wrong, what was waited for and what was
loaded.  They are worked out from the state before the call.
-/

namespace Chip8.Machine

/-- An instruction that cannot be carried out is reported as a failure on top
of the line that announces it; beginning to wait for a key is reported too. -/
def executionRecords (machine : Machine) (instruction : Instruction) : List Record :=
  let place := "0x" ++ Text.hex 3 machine.counter
  let word := Text.hex 4 machine.word.toNat
  let announcement : Record := ⟨.trace, place ++ ": " ++ word ++ " " ++ instruction.assembly⟩
  match machine.execute instruction, instruction with
  | .error fault, _ =>
      [announcement, ⟨.debug, fault.message ++ " executing 0x" ++ word ++ " at " ++ place⟩]
  | .ok _, .awaitKey x =>
      announcement :: KeyLatch.waitRecords x
  | .ok _, _ => [announcement]

/-- The records of the next step. -/
def stepRecords (machine : Machine) : List Record :=
  if machine.isWaiting then
    []
  else
    match Instruction.decode? machine.word with
    | none =>
        let word := Text.hex 4 machine.word.toNat
        [⟨.debug, "illegal opcode 0x" ++ word ++ " at 0x" ++ Text.hex 3 machine.counter⟩]
    | some instruction => machine.executionRecords instruction

def keyRecords (machine : Machine) (mask : KeyMask) : List Record :=
  KeyLatch.deliveryRecords Fin.val machine.keys mask

def loadRecords (program : List UInt8) (seed initialFlags : UInt64) : List Record :=
  if program.length ≤ Memory.maxProgramLength then
    [⟨.debug, "loaded " ++ Nat.repr program.length ++ " byte program, seed 0x"
      ++ Text.hex 16 seed.toNat ++ ", flags 0x" ++ Text.hex 16 initialFlags.toNat⟩]
  else
    []

def callRecords (machine : Machine) : Call → List Record
  | .step => machine.stepRecords
  | .setKeys mask => machine.keyRecords mask
  | .reset program seed initialFlags => loadRecords program seed initialFlags
  | .tick | .acknowledgeScreen | .acknowledgeFlags | .resetDrawnBytes => []

end Chip8.Machine
