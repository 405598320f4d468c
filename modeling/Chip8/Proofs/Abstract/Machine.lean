import Mathlib.Data.ZMod.Basic
import Chip8.Fault

/-!
# The abstract machine

The instruction set as a table, on a machine without any layout: counter and
index are residues modulo 4096, memory, registers, flags and screen are
functions, the stack is a list, and random bytes come from a stream.  What each
word does is said here once more, without the instructions and the operations of
the machine that runs, so that the two can be compared.
-/

namespace Chip8.Abstract

/-- What a program can see, and nothing about how it is kept. -/
structure Machine where
  counter : ZMod 4096
  index : ZMod 4096
  memory : ZMod 4096 → UInt8
  register : ZMod 16 → UInt8
  /-- The return addresses, the most recent one first. -/
  stack : { saved : List (ZMod 4096) // saved.length ≤ 16 }
  /-- Whether the pixel in a column and a row is lit. -/
  screen : ZMod 64 → ZMod 32 → Bool
  flags : Fin 8 → UInt8
  delay : UInt8
  sound : UInt8
  /-- The keys held, one bit for each. -/
  keys : UInt16
  /-- The register that waits for a key, if one does. -/
  waiting : Option (ZMod 16)
  /-- The random bytes, and how many of them were drawn. -/
  stream : ℕ → UInt8
  position : ℕ

namespace Machine

/-! ## Operations of the table -/

/-- The word at the counter, high byte first. -/
def fetch (machine : Machine) : ℕ :=
  256 * (machine.memory machine.counter).toNat + (machine.memory (machine.counter + 1)).toNat

/-- Go on with the next instruction. -/
def next (machine : Machine) : Machine :=
  { machine with counter := machine.counter + 2 }

/-- Go on with the next instruction, or with the one after it. -/
def skipIf (machine : Machine) (condition : Bool) : Machine :=
  { machine with counter := machine.counter + (if condition then 4 else 2) }

/-- Go on at an address. -/
def goTo (machine : Machine) (target : ZMod 4096) : Machine :=
  { machine with counter := target }

/-- Put a value into a register. -/
def set (machine : Machine) (x : ZMod 16) (value : UInt8) : Machine :=
  { machine with register := Function.update machine.register x value }

/-- Put a value into a register and after that a flag into VF. -/
def setFlagged (machine : Machine) (x : ZMod 16) (value : UInt8) (flag : Bool) : Machine :=
  (machine.set x value).set 0xF (if flag then 1 else 0)

/-- Whether the sprite of so many bytes at the index has a bit for a pixel, if its
top left corner is at `left`, `top`. -/
def covers (machine : Machine) (left : ZMod 64) (top : ZMod 32) (height : ℕ)
    (column : ZMod 64) (row : ZMod 32) : Bool :=
  let across := (column - left).val
  let down := (row - top).val
  down < height && across < 8 && (machine.memory (machine.index + down)).toNat.testBit (7 - across)

/-- Some pixel that the sprite has a bit for is lit. -/
def Collides (machine : Machine) (left : ZMod 64) (top : ZMod 32) (height : ℕ) : Prop :=
  ∃ column row, machine.covers left top height column row = true ∧ machine.screen column row = true

open Classical in
/-- Flip the pixels of a sprite; VF tells whether one of them was lit. -/
noncomputable def draw (machine : Machine) (left : ZMod 64) (top : ZMod 32) (height : ℕ) :
    Machine :=
  { machine with
    screen := fun column row =>
      machine.screen column row ^^ machine.covers left top height column row
    }.set 0xF (if machine.Collides left top height then 1 else 0)

/-- Whether the key named by the low half of a byte is held. -/
def isHeld (machine : Machine) (key : UInt8) : Bool :=
  machine.keys.toNat.testBit (key.toNat % 16)

/-- Replace the memory at the index and the places after it, by distance. -/
def store (machine : Machine) (count : ℕ) (byte : ℕ → UInt8) : Machine :=
  { machine with
    memory := fun address =>
      let distance := (address - machine.index).val
      if distance < count then byte distance else machine.memory address }

/-- Replace V0 to VX. -/
def setUpTo (machine : Machine) (x : ZMod 16) (value : ℕ → UInt8) : Machine :=
  { machine with
    register := fun other => if other.val ≤ x.val then value other.val else machine.register other }

/-! ## The table -/

/-- Carry out the instruction with the given digits, of which `nn` are the last
two and `nnn` the last three together. -/
noncomputable def row (machine : Machine) (lead x y n nn nnn : ℕ) : Except Fault Machine :=
  let vx := machine.register x
  let vy := machine.register y
  let byte := UInt8.ofNat nn
  match lead, x, y, n with
  | 0x0, 0x0, 0xE, 0x0 => .ok { machine with screen := fun _ _ => false }.next
  | 0x0, 0x0, 0xE, 0xE =>
      match machine.stack with
      | ⟨[], _⟩ => .error .badReturn
      | ⟨top :: rest, hle⟩ =>
          .ok ({ machine with stack := ⟨rest, Nat.le_of_succ_le hle⟩ }.goTo top)
  | 0x1, _, _, _ => .ok (machine.goTo nnn)
  | 0x2, _, _, _ =>
      if hfree : machine.stack.val.length < 16 then
        .ok ({ machine with
          stack := ⟨(machine.counter + 2) :: machine.stack.val, hfree⟩ }.goTo nnn)
      else
        .error .stackOverflow
  | 0x3, _, _, _ => .ok (machine.skipIf (vx = byte))
  | 0x4, _, _, _ => .ok (machine.skipIf (vx ≠ byte))
  | 0x5, _, _, 0x0 => .ok (machine.skipIf (vx = vy))
  | 0x6, _, _, _ => .ok (machine.set x byte).next
  | 0x7, _, _, _ => .ok (machine.set x (vx + byte)).next
  | 0x8, _, _, 0x0 => .ok (machine.set x vy).next
  | 0x8, _, _, 0x1 => .ok (machine.set x (vx ||| vy)).next
  | 0x8, _, _, 0x2 => .ok (machine.set x (vx &&& vy)).next
  | 0x8, _, _, 0x3 => .ok (machine.set x (vx ^^^ vy)).next
  | 0x8, _, _, 0x4 => .ok (machine.setFlagged x (vx + vy) (255 < vx.toNat + vy.toNat)).next
  | 0x8, _, _, 0x5 => .ok (machine.setFlagged x (vx - vy) (vy.toNat ≤ vx.toNat)).next
  | 0x8, _, _, 0x6 => .ok (machine.setFlagged x (vx / 2) (vx.toNat % 2 = 1)).next
  | 0x8, _, _, 0x7 => .ok (machine.setFlagged x (vy - vx) (vx.toNat ≤ vy.toNat)).next
  | 0x8, _, _, 0xE => .ok (machine.setFlagged x (vx + vx) (128 ≤ vx.toNat)).next
  | 0x9, _, _, 0x0 => .ok (machine.skipIf (vx ≠ vy))
  | 0xA, _, _, _ => .ok { machine with index := nnn }.next
  | 0xB, _, _, _ => .ok (machine.goTo (nnn + (machine.register 0).toNat))
  | 0xC, _, _, _ =>
      .ok ({ machine with position := machine.position + 1 }.set x
        (machine.stream machine.position &&& byte)).next
  | 0xD, _, _, _ => .ok (machine.draw vx.toNat vy.toNat n).next
  | 0xE, _, 0x9, 0xE => .ok (machine.skipIf (machine.isHeld vx))
  | 0xE, _, 0xA, 0x1 => .ok (machine.skipIf (!machine.isHeld vx))
  | 0xF, _, 0x0, 0x7 => .ok (machine.set x machine.delay).next
  | 0xF, _, 0x0, 0xA => .ok { machine with waiting := some x }.next
  | 0xF, _, 0x1, 0x5 => .ok { machine with delay := vx }.next
  | 0xF, _, 0x1, 0x8 => .ok { machine with sound := vx }.next
  | 0xF, _, 0x1, 0xE => .ok { machine with index := machine.index + vx.toNat }.next
  | 0xF, _, 0x2, 0x9 =>
      .ok { machine with index := 0x50 + 5 * ((vx.toNat % 16 : ℕ) : ZMod 4096) }.next
  | 0xF, _, 0x3, 0x3 =>
      .ok (machine.store 3 fun
        | 0 => vx / 100
        | 1 => vx / 10 % 10
        | _ => vx % 10).next
  | 0xF, _, 0x5, 0x5 => .ok (machine.store (x + 1) fun distance => machine.register distance).next
  | 0xF, _, 0x6, 0x5 =>
      .ok (machine.setUpTo x fun distance => machine.memory (machine.index + distance)).next
  | 0xF, _, 0x7, 0x5 =>
      if x ≤ 7 then
        .ok { machine with
          flags := fun place => if place.val ≤ x then machine.register place.val
            else machine.flags place }.next
      else
        .error .flagOverflow
  | 0xF, _, 0x8, 0x5 =>
      if x ≤ 7 then .ok (machine.setUpTo x fun place => machine.flags (Fin.ofNat 8 place)).next
      else .error .flagOverflow
  | _, _, _, _ => .error .illegalOpcode

/-- Carry out the instruction that a word stands for. -/
noncomputable def perform (machine : Machine) (word : ℕ) : Except Fault Machine :=
  machine.row (word / 0x1000) (word / 0x100 % 0x10) (word / 0x10 % 0x10) (word % 0x10)
    (word % 0x100) (word % 0x1000)

/-- Carry out the word at the counter, unless the machine waits for a key. -/
noncomputable def step (machine : Machine) : Except Fault Machine :=
  match machine.waiting with
  | some _ => .ok machine
  | none => machine.perform machine.fetch

end Machine

end Chip8.Abstract
