import Chip8.FileStore

/-!
# Tables of files

Files that are known by their whole paths, each with its content or with the
reason why it has none.  This is enough for those who name each file once.
-/

namespace Chip8

/-- Paths and what reading them yields.  Paths that are not in the table lead
nowhere. -/
structure FileTable where
  rows : List (String × Except IoError ByteArray) := []

namespace FileTable

def read (table : FileTable) (path : String) : Except IoError ByteArray :=
  (table.rows.lookup path).getD (.error .missing)

/-- Replace the content of a path.  This succeeds for files that are there and
for files that are merely missing. -/
def write (table : FileTable) (path : String) (content : ByteArray) :
    Except IoError Unit × FileTable :=
  match table.read path with
  | .ok _ | .error .missing =>
      (.ok (), ⟨(path, .ok content) :: table.rows.filter (·.1 != path)⟩)
  | .error error => (.error error, table)

instance : FileStore FileTable where
  read := read
  write := write

end FileTable

end Chip8
