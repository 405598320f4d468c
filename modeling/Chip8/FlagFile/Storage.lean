import Chip8.FileStore
import Chip8.FlagFile
import Chip8.Log

/-!
# Keeping flags in a file

Loading and saving the flag registers.  A file that is not there yet stands
for eight zeros.
-/

namespace Chip8.FlagFile

variable {Store : Type} [FileStore Store]

def readText (files : Store) (path : String) : Except IoError String :=
  match FileStore.read files path with
  | .error error => .error error
  | .ok content =>
      match String.fromUTF8? content with
      | none => .error .notText
      | some text => .ok text

/-- The flags kept at `path`, in their packed form. -/
def load (files : Store) (path : String) : Except HostError UInt64 :=
  match readText files path with
  | .error .missing => .ok 0
  | .error error => .error (.io error)
  | .ok text =>
      match parse text with
      | .error problem => .error (.flagFile problem)
      | .ok packed => .ok packed

/-- Keep flags at `path`, in place of what was there. -/
def save (files : Store) (path : String) (packed : UInt64) : Except HostError Unit × Store :=
  match FileStore.write files path (render packed).toUTF8 with
  | (.error error, files) => (.error (.io error), files)
  | (.ok (), files) => (.ok (), files)

def loadRecords (files : Store) (path : String) : List Record :=
  match readText files path with
  | .error .missing => [⟨.info, "no flag file at " ++ path ++ ", starting with zeroed flags"⟩]
  | _ => []

end Chip8.FlagFile
