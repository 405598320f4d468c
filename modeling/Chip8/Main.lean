import Chip8.FileTable
import Chip8.Session

/-!
# The program

Runs a session on the files of the system.  Standard input holds the keyboard:
one line of event names for each poll.  The last picture goes to standard
output.
-/

namespace Chip8.Main

/-- The text that explains the command line. -/
def usageText : String :=
  "Run a CHIP-8 program in the terminal\n\n"
    ++ "Usage: chip8 [OPTIONS] <PROGRAM>\n\n"
    ++ "Options:\n"
    ++ "      --speed <SPEED>          Instructions in a tick [default: 300]\n"
    ++ "      --tick-rate <TICK_RATE>  Ticks in a second [default: 60]\n"
    ++ "      --seed <SEED>            Seed of the random bytes; the clock by default\n"
    ++ "      --flags <FLAGS>          File that keeps the flag registers\n"
    ++ "      --ticks <TICKS>          Stop after this many ticks\n"
    ++ "      --mute                   Do without the speaker\n"
    ++ "  -h, --help                   Print help"

def readFile (path : String) : IO (Except IoError ByteArray) :=
  try
    return .ok (← IO.FS.readBinFile path)
  catch
    | .noFileOrDirectory .. => return .error .missing
    | problem => return .error (.device (toString problem))

def readFiles (options : Options) : IO FileTable := do
  let program := (options.program, ← readFile options.program)
  match options.flags with
  | none => return ⟨[program]⟩
  | some path => return ⟨[(path, ← readFile path), program]⟩

/-- The lines of standard input, each as the events of one poll. -/
def readEvents : IO (List (List TerminalEvent)) := do
  let text ← (← IO.getStdin).readToEnd
  return (text.splitOn "\n").map TerminalEvent.ofNames

/-- Put the flags where the options want them. -/
def writeFlags (options : Options) (before after : FileTable) : IO Unit := do
  match options.flags with
  | none => return
  | some path =>
      match before.read path, after.read path with
      | .ok old, .ok new => if old.data ≠ new.data then IO.FS.writeBinFile path new
      | .error _, .ok new => IO.FS.writeBinFile path new
      | _, .error _ => return

/-- Run a session and return its exit code. -/
def runSession (options : Options) : IO UInt32 := do
  let files ← readFiles options
  let keyboard : Keyboard := { groups := ← readEvents }
  let outcome := Session.run options (UInt64.ofNat (← IO.monoNanosNow)) keyboard files
  writeFlags options files (Session.filesAfter outcome files)
  match outcome.host with
  | none => pure ()
  | some host => host.display.text.forM IO.println
  match outcome.result with
  | .ok _ => return 0
  | .error error =>
      IO.eprintln ("Error: " ++ error.message)
      return 1

end Chip8.Main

def main (words : List String) : IO UInt32 := do
  match Chip8.CommandLine.parse words with
  | .error error =>
      IO.eprintln ("error: " ++ error.message)
      return 2
  | .ok .help =>
      IO.println Chip8.Main.usageText
      return 0
  | .ok (.run options) => Chip8.Main.runSession options
