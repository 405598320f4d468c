import Chip8.Machine.Execute

/-!
# Calls

What can be done to a machine from outside, as data, so that a history of a
machine is a list.  A call that fails leaves the machine as it was.
-/

namespace Chip8

namespace Machine

/-- Count both timers down. -/
def tick (machine : Machine) : Machine :=
  { machine with timers := machine.timers.tick }

def tickTimes (machine : Machine) (count : Nat) : Machine :=
  { machine with timers := machine.timers.tickTimes count }

theorem tickTimes_succ (machine : Machine) (count : Nat) :
    machine.tickTimes (count + 1) = machine.tick.tickTimes count := by
  simp [tickTimes, tick]

/-- Replace the keys held.  If this ends a wait, the key goes into the
register that waits for it. -/
def setKeys (machine : Machine) (mask : KeyMask) : Machine :=
  let released := { machine with keys := machine.keys.setKeys mask }
  match machine.keys.delivery? mask with
  | none => released
  | some (x, key) => released.setRegister x (UInt8.ofNat key)

/-- Take note of everything drawn so far. -/
def acknowledgeScreen (machine : Machine) : Machine :=
  { machine with screen := machine.screen.acknowledge }

/-- Take note of everything stored in the flag registers so far. -/
def acknowledgeFlags (machine : Machine) : Machine :=
  { machine with flags := machine.flags.acknowledge }

def resetDrawnBytes (machine : Machine) : Machine :=
  { machine with drawnBytes := 0 }

/-- One thing done to a machine. -/
inductive Call where
  | step
  | tick
  | setKeys (mask : KeyMask)
  | acknowledgeScreen
  | acknowledgeFlags
  | resetDrawnBytes
  | reset (program : List UInt8) (seed initialFlags : UInt64)
  deriving DecidableEq

/-- The state after a call, or why the call failed. -/
def answer (machine : Machine) : Call → Except Fault Machine
  | .step => machine.step
  | .tick => .ok machine.tick
  | .setKeys mask => .ok (machine.setKeys mask)
  | .acknowledgeScreen => .ok machine.acknowledgeScreen
  | .acknowledgeFlags => .ok machine.acknowledgeFlags
  | .resetDrawnBytes => .ok machine.resetDrawnBytes
  | .reset program seed initialFlags => load program seed initialFlags

/-- The state after a call, which is the old one if the call fails. -/
def after (machine : Machine) (call : Call) : Machine :=
  match machine.answer call with
  | .ok next => next
  | .error _ => machine

def afterAll (machine : Machine) (calls : List Call) : Machine :=
  calls.foldl after machine

end Machine

end Chip8
