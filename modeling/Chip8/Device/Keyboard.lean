import Chip8.Device
import Chip8.Text.Quoted

/-!
# The terminal keyboard

A terminal reports when a key goes down and never when it comes up, so a key
counts as held for a few polls after each report.  The left part of the
keyboard stands for the sixteen keys, the space bar for all of them at once,
and escape or control with `c` asks to stop.

What the terminal reports is given in advance, as one group of events for each
poll to come.
-/

namespace Chip8

/-! ## Events -/

/-- Keys held together with another one. -/
structure Modifiers where
  control : Bool := false
  shift : Bool := false
  alt : Bool := false
  deriving DecidableEq

/-- A key of the terminal. -/
inductive TerminalKey where
  | character (c : Char)
  | escape
  /-- A key without a meaning here, by its name. -/
  | other (name : String)
  deriving DecidableEq

/-- What the terminal reports. -/
inductive TerminalEvent where
  | key (key : TerminalKey) (modifiers : Modifiers)
  | resize
  /-- The terminal cannot be read. -/
  | failure (reason : String)
  deriving DecidableEq

/-! ## The keys that are held -/

/-- The state of the keyboard.  For each key, and for all of them together, it
counts the polls for which they still count as held. -/
structure HeldKeys where
  remaining : Vector Nat 16 := Vector.replicate 16 0
  allRemaining : Nat := 0
  quit : Bool := false
  deriving DecidableEq

namespace HeldKeys

/-- For how many polls a key counts as held, from the one that reports it on. -/
def holdPolls : Nat := 6

/-- The characters that stand for the keys, in the order of the keys. -/
def layout : List Char :=
  ['x', '1', '2', '3', 'q', 'w', 'e', 'a', 's', 'd', 'z', 'c', '4', 'r', 'f', 'v']

/-- The key that a character of either case stands for. -/
def keyOf? (c : Char) : Option Key :=
  (List.finRange 16).find? fun key => layout[key.val]? = some c.toLower

/-- Let one poll pass. -/
def fade (held : HeldKeys) : HeldKeys :=
  { held with
    remaining := held.remaining.map fun polls => polls - 1
    allRemaining := held.allRemaining - 1 }

/-- Take in that a character was typed. -/
def typed (held : HeldKeys) (c : Char) (modifiers : Modifiers) : HeldKeys :=
  if c = 'c' ∧ modifiers.control then { held with quit := true }
  else if c = ' ' then { held with allRemaining := holdPolls }
  else
    match keyOf? c with
    | some key => { held with remaining := held.remaining.set key holdPolls }
    | none => held

def receive (held : HeldKeys) : TerminalEvent → HeldKeys
  | .key (.character c) modifiers => held.typed c modifiers
  | .key .escape _ => { held with quit := true }
  | .key (.other _) _ | .resize | .failure _ => held

/-- Take in events up to the first failure: the events left behind it, and the
reason of the failure if there is one. -/
def receiveAll (held : HeldKeys) :
    List TerminalEvent → HeldKeys × List TerminalEvent × Option String
  | [] => (held, [], none)
  | .failure reason :: rest => (held, rest, some reason)
  | event :: rest => (held.receive event).receiveAll rest

/-- The keys that count as held. -/
def mask (held : HeldKeys) : KeyMask :=
  if 0 < held.allRemaining then
    0xFFFF
  else
    (List.finRange 16).foldl (fun (mask : KeyMask) (key : Key) =>
      if 0 < held.remaining[key] then mask ||| 1 <<< UInt16.ofNat key else mask) 0

end HeldKeys

/-! ## The device -/

/-- A terminal keyboard, with the events of the polls to come.  While it is in
use the terminal is in raw mode and hands over every key at once. -/
structure Keyboard where
  held : HeldKeys := {}
  groups : List (List TerminalEvent) := []
  rawMode : Bool := false
  deriving DecidableEq

namespace Keyboard

/-- Take the keyboard into use.  `refusal` is why the terminal does not enter
raw mode, if it does not. -/
def open? (groups : List (List TerminalEvent)) (refusal : Option String) :
    Except IoError Keyboard :=
  match refusal with
  | some reason => .error (.device reason)
  | none => .ok { groups := groups, rawMode := true }

def close (keyboard : Keyboard) : Keyboard :=
  { keyboard with rawMode := false }

/-- The events that the next poll finds. -/
def pendingEvents (keyboard : Keyboard) : List TerminalEvent :=
  keyboard.groups.headD []

/-- Read the pending events.  After a failure the rest of them, be it empty,
is left for the next poll and the later groups have to wait. -/
def poll (keyboard : Keyboard) : Except IoError KeyMask × Keyboard :=
  match keyboard.held.fade.receiveAll keyboard.pendingEvents with
  | (held, _, none) =>
      (.ok held.mask, { keyboard with held := held, groups := keyboard.groups.tail })
  | (held, rest, some reason) =>
      (.error (.device reason),
        { keyboard with held := held, groups := rest :: keyboard.groups.tail })

/-- What an event reports to the log. -/
def eventRecords : TerminalEvent → List Record
  | .key (.character c) modifiers =>
      if (c = 'c' ∧ modifiers.control) ∨ c = ' ' ∨ (HeldKeys.keyOf? c).isSome then []
      else [⟨.warn, "can't map " ++ Text.quoteChar c ++ " to a CHIP-8 key"⟩]
  | .key (.other name) _ => [⟨.debug, "ignoring key " ++ name⟩]
  | .resize => [⟨.debug, "ignoring resize of the terminal"⟩]
  | .key .escape _ | .failure _ => []

def isReadable : TerminalEvent → Bool
  | .failure _ => false
  | _ => true

instance : InputDevice Keyboard where
  poll := poll
  quitRequested keyboard := keyboard.held.quit
  pollRecords keyboard := (keyboard.pendingEvents.takeWhile isReadable).flatMap eventRecords

end Keyboard

/-! ## Names of events -/

namespace TerminalEvent

/-- The key of a name.  A single character stands for itself. -/
def keyOfName (name : String) : TerminalKey :=
  match name.toList with
  | [c] => .character c
  | _ =>
      if name = "Space" then .character ' '
      else if name = "Esc" then .escape
      else .other name

/-- The modifiers that a letter before a hyphen stands for. -/
def modifiersOf? : Char → Option Modifiers
  | 'C' => some { control := true }
  | 'S' => some { shift := true }
  | 'A' => some { alt := true }
  | 'B' => some { control := true, shift := true }
  | _ => none

/-- The event of a name: a key, possibly behind a letter for modifiers and a
hyphen; `Resize`; or a failure with its reason behind `error:`. -/
def ofName (name : String) : TerminalEvent :=
  match name.toList with
  | 'e' :: 'r' :: 'r' :: 'o' :: 'r' :: ':' :: reason => .failure (String.ofList reason)
  | letter :: '-' :: rest =>
      match modifiersOf? letter with
      | some modifiers => .key (keyOfName (String.ofList rest)) modifiers
      | none => .key (.other name) {}
  | _ => if name = "Resize" then .resize else .key (keyOfName name) {}

/-- The events of names with blanks between them. -/
def ofNames (text : String) : List TerminalEvent :=
  ((text.splitOn " ").filter fun name => name ≠ "").map ofName

end TerminalEvent

end Chip8
