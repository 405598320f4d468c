/-!
# Faults

The ways in which a program, or an attempt to load one, can fail.  Each fault
has a small number, under which it is known outside the machine.
-/

namespace Chip8

/-- Why an instruction or a load could not be carried out. -/
inductive Fault where
  /-- The word is no instruction. -/
  | illegalOpcode
  /-- A call with sixteen return addresses already saved. -/
  | stackOverflow
  /-- A return with no return address saved. -/
  | badReturn
  /-- The program does not fit between its load address and the end of memory. -/
  | programTooLong
  /-- More than eight flag registers were asked for. -/
  | flagOverflow
  deriving DecidableEq

namespace Fault

/-- All faults, in the order of their numbers. -/
def all : List Fault :=
  [.illegalOpcode, .stackOverflow, .badReturn, .programTooLong, .flagOverflow]

/-- The number of a fault; zero stands for success and is not used. -/
def code : Fault → Nat
  | .illegalOpcode => 1
  | .stackOverflow => 2
  | .badReturn => 3
  | .programTooLong => 4
  | .flagOverflow => 5

/-- The fault with the given number. -/
def ofCode? (number : Nat) : Option Fault :=
  all.find? fun fault => fault.code = number

def name : Fault → String
  | .illegalOpcode => "IllegalOpcode"
  | .stackOverflow => "StackOverflow"
  | .badReturn => "BadReturn"
  | .programTooLong => "ProgramTooLong"
  | .flagOverflow => "FlagOverflow"

/-- The name belonging to a number, with a name of its own for numbers that
belong to no fault. -/
def nameOfCode (number : Nat) : String :=
  match ofCode? number with
  | some fault => fault.name
  | none => "UnknownError"

def message : Fault → String
  | .illegalOpcode => "illegal opcode"
  | .stackOverflow => "stack overflow"
  | .badReturn => "return with empty stack"
  | .programTooLong => "program too long"
  | .flagOverflow => "flag register overflow"

end Fault

end Chip8
