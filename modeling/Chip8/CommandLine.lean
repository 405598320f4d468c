/-!
# The command line

The words behind the program's name: the path of a program, and options in any
order around it.  An option's value follows it, either as the next word or
behind an equals sign.
-/

namespace Chip8

/-- What is asked for on the command line. -/
structure Options where
  /-- The path of the program to run. -/
  program : String
  /-- Instructions in a tick. -/
  speed : Nat := 300
  /-- Ticks in a second. -/
  tickRate : Nat := 60
  seed : Option UInt64 := none
  /-- Where the flag registers are kept, if anywhere. -/
  flags : Option String := none
  ticks : Option Nat := none
  mute : Bool := false
  deriving DecidableEq

namespace CommandLine

/-- Why a command line is refused. -/
inductive UsageError where
  | unknownOption (word : String)
  | unexpectedValue (word : String)
  | missingValue (option : String)
  | badValue (option value : String)
  | repeated (option : String)
  | unexpectedWord (word : String)
  | missingProgram
  deriving DecidableEq

def UsageError.message : UsageError → String
  | .unknownOption word => "unexpected option " ++ word
  | .unexpectedValue word => "unexpected value in " ++ word
  | .missingValue option => "a value is required for --" ++ option
  | .badValue option value => "invalid value " ++ value ++ " for --" ++ option
  | .repeated option => "--" ++ option ++ " cannot be used more than once"
  | .unexpectedWord word => "unexpected argument " ++ word
  | .missingProgram => "the path of a program is required"

/-- What a well-formed command line asks for. -/
inductive Request where
  | run (options : Options)
  | help
  deriving DecidableEq

/-! ## Numbers -/

/-- The number that digits stand for; there must be at least one. -/
def numberOfDigits? (digits : List Char) : Option Nat :=
  if digits ≠ [] ∧ digits.all Char.isDigit then
    some (digits.foldl (fun value c => 10 * value + (c.toNat - '0'.toNat)) 0)
  else
    none

/-- A number below `bound`, possibly behind a plus sign. -/
def number? (bound : Nat) (text : String) : Option Nat :=
  let digits := match text.toList with
    | '+' :: digits => digits
    | digits => digits
  (numberOfDigits? digits).filter fun value => value < bound

/-- A number below `bound`, possibly behind a sign; minus zero is zero. -/
def signedNumber? (bound : Nat) (text : String) : Option Nat :=
  match text.toList with
  | '-' :: digits => (numberOfDigits? digits).filter fun value => value = 0
  | _ => number? bound text

/-! ## Options with a value -/

/-- The options that take a value. -/
inductive ValueOption where
  | speed
  | tickRate
  | seed
  | flags
  | ticks
  deriving DecidableEq

def ValueOption.name : ValueOption → String
  | .speed => "speed"
  | .tickRate => "tick-rate"
  | .seed => "seed"
  | .flags => "flags"
  | .ticks => "ticks"

def ValueOption.ofName? (name : String) : Option ValueOption :=
  [ValueOption.speed, .tickRate, .seed, .flags, .ticks].find? fun option => option.name = name

/-- What has been read of a command line so far. -/
structure Draft where
  program : Option String := none
  speed : Option Nat := none
  tickRate : Option Nat := none
  seed : Option Nat := none
  flags : Option String := none
  ticks : Option Nat := none
  mute : Bool := false
  deriving DecidableEq

namespace Draft

/-- Put a value into its slot.  It must have been readable, and the slot empty. -/
def fill {Value : Type} (option : ValueOption) (text : String) (slot value : Option Value) :
    Except UsageError (Option Value) :=
  match value, slot with
  | none, _ => .error (.badValue option.name text)
  | some _, some _ => .error (.repeated option.name)
  | some value, none => .ok (some value)

def setOption (draft : Draft) (option : ValueOption) (text : String) :
    Except UsageError Draft :=
  match option with
  | .speed =>
      (fill option text draft.speed (signedNumber? UInt32.size text)).map
        fun slot => { draft with speed := slot }
  | .tickRate =>
      (fill option text draft.tickRate (signedNumber? UInt32.size text)).map
        fun slot => { draft with tickRate := slot }
  | .seed =>
      (fill option text draft.seed (number? UInt64.size text)).map
        fun slot => { draft with seed := slot }
  | .flags =>
      (fill option text draft.flags (if text = "" then none else some text)).map
        fun slot => { draft with flags := slot }
  | .ticks =>
      (fill option text draft.ticks (number? UInt64.size text)).map
        fun slot => { draft with ticks := slot }

def setProgram (draft : Draft) (word : String) : Except UsageError Draft :=
  match draft.program with
  | some _ => .error (.unexpectedWord word)
  | none =>
      if word = "" then .error .missingProgram
      else .ok { draft with program := some word }

def setMute (draft : Draft) : Except UsageError Draft :=
  if draft.mute then .error (.repeated "mute") else .ok { draft with mute := true }

/-- The request, once all words have been read. -/
def finish (draft : Draft) : Except UsageError Request :=
  match draft.program with
  | none => .error .missingProgram
  | some program => .ok (.run {
      program := program
      speed := draft.speed.getD 300
      tickRate := draft.tickRate.getD 60
      seed := draft.seed.map UInt64.ofNat
      flags := draft.flags
      ticks := draft.ticks
      mute := draft.mute })

end Draft

/-! ## Words -/

/-- What a word is, as long as options are allowed. -/
inductive Word where
  | plain
  /-- Two hyphens alone: no options from here on. -/
  | endOfOptions
  /-- A name behind two hyphens, with what follows its equals sign if it has one. -/
  | long (name : String) (value : Option String)
  /-- A letter behind a single hyphen. -/
  | short (letter : Char)

/-- A name and what follows its equals sign, if it has one. -/
def splitValue (characters : List Char) : String × Option String :=
  let name := String.ofList (characters.takeWhile (· ≠ '='))
  match characters.dropWhile (· ≠ '=') with
  | [] => (name, none)
  | _ :: value => (name, some (String.ofList value))

/-- Tell what a word is.  A single hyphen is no option. -/
def Word.of (word : String) : Word :=
  match word.toList with
  | ['-', '-'] => .endOfOptions
  | '-' :: '-' :: characters =>
      let (name, value) := splitValue characters
      .long name value
  | '-' :: letter :: _ => .short letter
  | _ => .plain

/-- Read the words that are left.  `pending` is an option whose value is yet to
come, and with `onlyPlain` hyphens have no meaning any more. -/
def read (draft : Draft) (pending : Option ValueOption) (onlyPlain : Bool) :
    List String → Except UsageError Request
  | [] =>
      match pending with
      | some option => .error (.missingValue option.name)
      | none => draft.finish
  | word :: rest =>
      match pending, if onlyPlain then Word.plain else Word.of word with
      | some option, .plain =>
          match draft.setOption option word with
          | .error error => .error error
          | .ok draft => read draft none onlyPlain rest
      | some option, _ => .error (.missingValue option.name)
      | none, .plain =>
          match draft.setProgram word with
          | .error error => .error error
          | .ok draft => read draft none onlyPlain rest
      | none, .endOfOptions => read draft none true rest
      | none, .short letter =>
          if letter = 'h' then .ok .help else .error (.unknownOption word)
      | none, .long name value =>
          match ValueOption.ofName? name, value with
          | some option, none => read draft (some option) onlyPlain rest
          | some option, some value =>
              match draft.setOption option value with
              | .error error => .error error
              | .ok draft => read draft none onlyPlain rest
          | none, some _ =>
              if name = "mute" ∨ name = "help" then .error (.unexpectedValue word)
              else .error (.unknownOption word)
          | none, none =>
              if name = "help" then .ok .help
              else if name = "mute" then
                match draft.setMute with
                | .error error => .error error
                | .ok draft => read draft none onlyPlain rest
              else .error (.unknownOption word)

/-- What a command line asks for. -/
def parse (words : List String) : Except UsageError Request :=
  read {} none false words

end CommandLine

end Chip8
