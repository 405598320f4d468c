/-!
# Log records

What the machine and its host report while they work.  Records never
influence execution: they are collected beside it, and a journal without a
threshold keeps none.
-/

namespace Chip8

/-- Severities, the most severe first. -/
inductive Level where
  | warn
  | info
  | debug
  | trace
  deriving DecidableEq

namespace Level

/-- The position in the order of severity; smaller is more severe. -/
def rank : Level → Nat
  | .warn => 0
  | .info => 1
  | .debug => 2
  | .trace => 3

/-- The word that opens the line of a record of this severity. -/
def name : Level → String
  | .warn => "WARN"
  | .info => "INFO"
  | .debug => "DEBUG"
  | .trace => "TRACE"

end Level

/-- One line of the log. -/
structure Record where
  level : Level
  message : String
  deriving DecidableEq

def Record.line (record : Record) : String :=
  record.level.name ++ " " ++ record.message

/-- The records kept so far.  Records less severe than the threshold are
dropped, and without a threshold all of them are. -/
structure Journal where
  threshold : Option Level := none
  records : Array Record := #[]
  deriving DecidableEq

namespace Journal

def keeps (journal : Journal) (level : Level) : Bool :=
  match journal.threshold with
  | none => false
  | some threshold => level.rank ≤ threshold.rank

/-- Add those of `records` that are severe enough.  The records are only
worked out if anything is kept at all. -/
def append (journal : Journal) (records : Unit → List Record) : Journal :=
  match journal.threshold with
  | none => journal
  | some _ =>
      let kept := (records ()).filter fun record => journal.keeps record.level
      { journal with records := journal.records ++ kept }

end Journal

end Chip8
