import Chip8.Address
import Chip8.Fault
import Chip8.JsonText.Basic
import Chip8.Text.Hex

/-!
# Host errors

What can go wrong around the machine: files and devices fail, a flag file is
not what it should be, a program does not load or does something illegal.
-/

namespace Chip8

/-- A failure of a file or of a device that is read or written like one. -/
inductive IoError where
  | missing
  | notADirectory
  | isADirectory
  /-- A path, or a name in it, is longer than paths and names may be. -/
  | nameTooLong
  /-- A path holds the character that would end it. -/
  | zeroInPath
  /-- A file that should hold text is not valid UTF-8. -/
  | notText
  /-- A device fails with a text of its own. -/
  | device (reason : String)
  deriving DecidableEq

def IoError.message : IoError → String
  | .missing => "No such file or directory (os error 2)"
  | .notADirectory => "Not a directory (os error 20)"
  | .isADirectory => "Is a directory (os error 21)"
  | .nameTooLong => "File name too long (os error 36)"
  | .zeroInPath => "file name contained an unexpected NUL byte"
  | .notText => "stream did not contain valid UTF-8"
  | .device reason => reason

/-- Why the host stops. -/
inductive HostError where
  | io (error : IoError)
  | flagFile (problem : JsonText.Problem)
  | sound (reason : String)
  | load (fault : Fault)
  /-- An instruction failed; where it stands and its word are kept with it. -/
  | engine (fault : Fault) (counter : Address) (word : UInt16)
  deriving DecidableEq

namespace HostError

/-- What a refused flag file suffers from. -/
def problemMessage : JsonText.Problem → String
  | .illFormed => "ill-formed text"
  | .cutShort => "unexpected end of text"
  | .wrongKind => "unexpected value"

def message : HostError → String
  | .io error => "I/O error: " ++ error.message
  | .flagFile problem => "flag file error: " ++ problemMessage problem
  | .sound reason => "sound error: " ++ reason
  | .load fault => "failed to load program: " ++ fault.message
  | .engine fault counter word =>
      fault.message ++ " at 0x" ++ Text.hex 3 counter
        ++ ", instruction 0x" ++ Text.hex 4 word.toNat

end HostError

end Chip8
