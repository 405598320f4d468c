import Chip8.Device
import Chip8.FlagFile.Storage
import Chip8.Machine.Report

/-!
# The host

The host is everything around the machine that decides when to step it, when
to count its timers down, and what to do with the screen, the tone and the
flag registers.  It works with any devices and any files.
-/

namespace Chip8

/-- How the host drives the machine. -/
structure Config where
  instructionsPerTick : Nat := 300
  /-- Ticks in a second; zero stands for as many as possible. -/
  tickRate : Nat := 60
  seed : UInt64 := 0
  /-- Where the flag registers are kept, if anywhere. -/
  flagsPath : Option String := none
  /-- After how many ticks to stop, if ever. -/
  maxTicks : Option Nat := none
  deriving DecidableEq

/-- A machine, the devices around it, and what the host remembers. -/
structure Host (Input Display Sound Store : Type) where
  machine : Machine
  input : Input
  display : Display
  sound : Sound
  files : Store
  config : Config := {}
  /-- Whether the tone was last turned on. -/
  sounding : Bool := false
  /-- How many ticks were counted.  There is no largest count: a word of 64 bits can hold
  it for the first `2 ^ 64 - 1` ticks, which is longer than any run takes. -/
  ticks : Nat := 0
  journal : Journal := {}

namespace Host

variable {Input Display Sound Store : Type}

/-- Add records to the journal. -/
def note (host : Host Input Display Sound Store) (records : Unit → List Record) :
    Host Input Display Sound Store :=
  { host with journal := host.journal.append records }

/-- How a piece of work ended and the host after it. -/
structure Outcome (Input Display Sound Store : Type) where
  result : Except HostError Unit
  host : Host Input Display Sound Store

def done (host : Host Input Display Sound Store) : Outcome Input Display Sound Store :=
  ⟨.ok (), host⟩

def failed (host : Host Input Display Sound Store) (error : HostError) :
    Outcome Input Display Sound Store :=
  ⟨.error error, host⟩

/-- Go on with more work, unless the work before it failed. -/
def Outcome.andThen (outcome : Outcome Input Display Sound Store)
    (next : Host Input Display Sound Store → Outcome Input Display Sound Store) :
    Outcome Input Display Sound Store :=
  match outcome.result with
  | .ok () => next outcome.host
  | .error _ => outcome

end Host

end Chip8
