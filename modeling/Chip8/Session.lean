import Chip8.CommandLine
import Chip8.Device.Keyboard
import Chip8.Device.Speaker
import Chip8.Device.Terminal
import Chip8.Host.Loop

/-!
# Sessions

A session is what one command line starts: a program and its flags are read
from files, and a machine runs in the terminal until something ends the run.
-/

namespace Chip8.Session

/-- Why a session fails. -/
inductive Failure where
  /-- The program cannot be read. -/
  | unreadable (path : String)
  /-- The program cannot be loaded. -/
  | unloadable (fault : Fault)
  | host (error : HostError)
  deriving DecidableEq

def Failure.message : Failure → String
  | .unreadable path => "reading " ++ path
  | .unloadable fault => fault.message
  | .host error => error.message

/-- The host of a session: keyboard and screen are those of the terminal, and
the tone is heard unless this was declined. -/
abbrev TerminalHost (Store : Type) :=
  Host Keyboard Terminal (Mute ⊕ Beeper) Store

/-- How a session ended.  There is a host if the session got as far as having
one; its files are those left behind. -/
structure Outcome (Store : Type) where
  result : Except Failure Nat
  host : Option (TerminalHost Store)

variable {Store : Type} [FileStore Store]

def initialFlags (options : Options) (files : Store) : Except HostError UInt64 :=
  match options.flags with
  | none => .ok 0
  | some path => FlagFile.load files path

def configOf (options : Options) (seed : UInt64) : Config where
  instructionsPerTick := options.speed
  tickRate := options.tickRate
  seed := seed
  flagsPath := options.flags
  maxTicks := options.ticks

/-- The host that a session runs.  `clock` is the seed for those who name none. -/
def prepare (options : Options) (clock : UInt64) (keyboard : Keyboard) (files : Store) :
    Except Failure (TerminalHost Store) :=
  match FileStore.read files options.program with
  | .error _ => .error (.unreadable options.program)
  | .ok program =>
      match initialFlags options files with
      | .error error => .error (.host error)
      | .ok flags =>
          let seed := options.seed.getD clock
          match Machine.load program.data.toList seed flags with
          | .error fault => .error (.unloadable fault)
          | .ok machine => .ok {
              machine := machine
              input := keyboard
              display := { raster := ⟨64, 32⟩ }
              sound :=
                if options.mute then .inl {} else .inr { speaker := { fails := fun _ => false } }
              files := files
              config := configOf options seed }

def run (options : Options) (clock : UInt64) (keyboard : Keyboard) (files : Store) :
    Outcome Store :=
  match prepare options clock keyboard files with
  | .error error => ⟨.error error, none⟩
  | .ok host =>
      match host.mainLoop with
      | (.error error, host) => ⟨.error (.host error), some host⟩
      | (.ok ticks, host) => ⟨.ok ticks, some host⟩

def filesAfter (outcome : Outcome Store) (files : Store) : Store :=
  match outcome.host with
  | none => files
  | some host => host.files

end Chip8.Session
