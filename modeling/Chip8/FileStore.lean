import Chip8.HostError

/-!
# Files

`FileStore` is what the host needs of a file system: to read a whole file and
to replace one.  `FileTree` is a file system in memory, with directories and
the failures that paths through them bring.
-/

namespace Chip8

/-- Something that keeps files under paths.  Either operation may fail, and a
failed write may have any effect. -/
class FileStore (Store : Type) where
  read : Store → String → Except IoError ByteArray
  /-- Replace the content of a file, which need not exist yet. -/
  write : Store → String → ByteArray → Except IoError Unit × Store

/-- What a path may lead to. -/
inductive FileTree.Entry where
  | directory
  | file (content : ByteArray)

/-- Files and directories.  Each stands at a place, which is the list of the
names on the way to it from the root; the root itself is always there. -/
structure FileTree where
  entries : List (List String × FileTree.Entry) := []
  /-- Where paths start that do not start at the root. -/
  workingDirectory : List String := []

namespace FileTree

/-- What stands at a place, if anything does. -/
def lookup? (tree : FileTree) (place : List String) : Option Entry :=
  if place.isEmpty then some .directory else tree.entries.lookup place

/-- Put an entry at a place, over what stood there. -/
def insert (tree : FileTree) (place : List String) (entry : Entry) : FileTree :=
  { tree with entries := (place, entry) :: tree.entries.filter (·.1 != place) }

theorem lookup?_insert_self (tree : FileTree) {place : List String} (entry : Entry)
    (hplace : place ≠ []) : (tree.insert place entry).lookup? place = some entry := by
  simp [lookup?, insert, hplace]

theorem lookup_filter_of_ne (entries : List (List String × Entry)) {place other : List String}
    (hother : other ≠ place) :
    (entries.filter (·.1 != place)).lookup other = entries.lookup other := by
  induction entries with
  | nil => rfl
  | cons head rest ih =>
      obtain ⟨key, entry⟩ := head
      by_cases hkey : key = place
      · simp [List.lookup_cons, hkey, beq_false_of_ne hother, ih]
      · simp [List.lookup_cons, hkey, ih]

/-- All other places keep what stood there. -/
theorem lookup?_insert_of_ne (tree : FileTree) {place other : List String} (entry : Entry)
    (hother : other ≠ place) : (tree.insert place entry).lookup? other = tree.lookup? other := by
  simp [lookup?, insert, List.lookup_cons, beq_false_of_ne hother, lookup_filter_of_ne _ hother]

/-! ## Paths -/

def pathLimit : Nat := 4095

def nameLimit : Nat := 255

/-- The pieces between the slashes of a text, from the first one on, which may
be empty like any other. -/
def pieces : List Char → List (List Char)
  | [] => [[]]
  | c :: rest =>
      if c = '/' then [] :: pieces rest else (pieces rest).modifyHead (c :: ·)

def piecesOf (path : String) : List String :=
  (pieces path.toList).map String.ofList

/-- The components of a path, unless the path is refused as a whole. -/
def components (path : String) : Except IoError (List String) :=
  if path.toList.contains '\x00' then .error .zeroInPath
  else if path = "" then .error .missing
  else if pathLimit < path.utf8ByteSize then .error .nameTooLong
  else .ok (piecesOf path)

/-- Where a path starts.  Nothing stands before a slash at its front. -/
def start (tree : FileTree) (components : List String) : List String :=
  if components.head? = some "" then [] else tree.workingDirectory

/-- Where a component of a path leads from a place. -/
def enter (place : List String) (component : String) : List String :=
  if component = "" ∨ component = "." then place
  else if component = ".." then place.dropLast
  else place ++ [component]

/-- Follow the components of a path from a place.  Only a directory can be
followed further, be it to where it stands. -/
def follow (tree : FileTree) (place : List String) :
    List String → Except IoError (List String)
  | [] => .ok place
  | component :: rest =>
      match tree.lookup? place with
      | none => .error .missing
      | some (.file _) => .error .notADirectory
      | some .directory =>
          if nameLimit < component.utf8ByteSize then .error .nameTooLong
          else tree.follow (enter place component) rest

def resolve (tree : FileTree) (path : String) : Except IoError (List String) :=
  match components path with
  | .error error => .error error
  | .ok components => tree.follow (tree.start components) components

/-- The components of the directory in which a path ends, if slashes follow the
last name. -/
def parentComponents (components : List String) : List String :=
  (components.reverse.dropWhile (· = "")).tail.reverse ++ [""]

/-- The place at which a path wants a file.  A name with a slash behind it can
only be that of a directory, so it is not looked up: the directory that it
stands in takes its part. -/
def resolveNew (tree : FileTree) (path : String) : Except IoError (List String) :=
  match components path with
  | .error error => .error error
  | .ok components =>
      tree.follow (tree.start components)
        (if components.getLast? = some "" then parentComponents components else components)

/-! ## Reading and writing -/

def read (tree : FileTree) (path : String) : Except IoError ByteArray :=
  match tree.resolve path with
  | .error error => .error error
  | .ok place =>
      match tree.lookup? place with
      | none => .error .missing
      | some .directory => .error .isADirectory
      | some (.file content) => .ok content

/-- Replace the content of a file, which need not exist yet, in a directory
that does. -/
def write (tree : FileTree) (path : String) (content : ByteArray) :
    Except IoError Unit × FileTree :=
  match tree.resolveNew path with
  | .error error => (.error error, tree)
  | .ok place =>
      match tree.lookup? place with
      | some .directory => (.error .isADirectory, tree)
      | _ => (.ok (), tree.insert place (.file content))

instance : FileStore FileTree where
  read := read
  write := write

/-! ## Building trees -/

/-- Put an entry where the components of a path lead from a place, and
directories wherever they pass on the way. -/
def build (tree : FileTree) (place : List String) (entry : Entry) : List String → FileTree
  | [] => tree.insert place entry
  | component :: rest =>
      (tree.insert place .directory).build (enter place component) entry rest

/-- A tree that holds nothing but its working directory. -/
def empty (workingDirectory : List String) : FileTree :=
  build { workingDirectory := workingDirectory } [] .directory workingDirectory

/-- Put a file, or without content a directory, at a path from the working
directory, together with the directories on the way to it. -/
def add (tree : FileTree) (path : String) (content : Option ByteArray) : FileTree :=
  let entry := match content with
    | none => .directory
    | some content => .file content
  tree.build tree.workingDirectory entry (piecesOf path)

end FileTree

end Chip8
