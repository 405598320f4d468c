import Chip8.Machine.Execute
import Chip8.Proofs.Abstract.Machine
import Chip8.Proofs.Memory.Blocks
import Chip8.Proofs.Screen.Sprites

/-!
# The abstraction

Which abstract machine a machine is one of.  Marks and counters that no program
sees are left out.  Each operation of the machine is followed by the operation of
the abstract machine that it comes down to.
-/

namespace Chip8

/-! ## Numbers as residues -/

/-- A number below some size as a residue. -/
def residue {size : ℕ} (number : Fin size) : ZMod size :=
  (number.val : ZMod size)

/-- The number that a residue stands for. -/
def ofResidue {size : ℕ} [NeZero size] (remainder : ZMod size) : Fin size :=
  Fin.ofNat size remainder.val

/-- The pixel that two residues name. -/
def Position.ofResidues (column : ZMod 64) (row : ZMod 32) : Position :=
  .wrap column.val row.val

@[simp] theorem val_residue {size : ℕ} (number : Fin size) :
    (residue number).val = number.val :=
  ZMod.val_cast_of_lt number.isLt

section Residues

variable {size : ℕ} [NeZero size]

@[simp] theorem val_ofResidue (remainder : ZMod size) : (ofResidue remainder).val = remainder.val :=
  Nat.mod_eq_of_lt (ZMod.val_lt remainder)

@[simp] theorem ofResidue_residue (number : Fin size) : ofResidue (residue number) = number := by
  apply Fin.ext
  rw [val_ofResidue, val_residue]

@[simp] theorem residue_ofResidue (remainder : ZMod size) :
    residue (ofResidue remainder) = remainder := by
  rw [residue, val_ofResidue, ZMod.natCast_zmod_val]

theorem ofResidue_eq_iff {remainder : ZMod size} {number : Fin size} :
    ofResidue remainder = number ↔ remainder = residue number := by
  constructor
  · intro h
    rw [← h, residue_ofResidue]
  · intro h
    rw [h, ofResidue_residue]

/-- What lies some places after a start is told by its distance. -/
theorem eq_natCast_add_iff {remainder : ZMod size} {start distance : ℕ}
    (hdistance : distance < size) :
    remainder = ((start + distance : ℕ) : ZMod size) ↔ (remainder - start).val = distance := by
  rw [Nat.cast_add, ← sub_eq_iff_eq_add']
  constructor
  · intro hdifference
    rw [hdifference, ZMod.val_cast_of_lt hdistance]
  · intro hval
    rw [← hval, ZMod.natCast_zmod_val]

end Residues

@[simp] theorem lastDigit_val (remainder : ZMod 16) :
    lastDigit remainder.val = ofResidue remainder := rfl

namespace Address

@[simp] theorem ofNat_val (remainder : ZMod 4096) :
    ofNat remainder.val = ofResidue remainder := rfl

@[simp] theorem residue_ofNat (number : Nat) : residue (ofNat number) = (number : ZMod 4096) := by
  show ((number % 4096 : ℕ) : ZMod 4096) = number
  rw [ZMod.natCast_mod]

/-- Going on by some places is adding their number. -/
@[simp] theorem residue_offset (address : Address) (distance : Nat) :
    residue (address.offset distance) = residue address + distance := by
  rw [offset, residue_ofNat, Nat.cast_add]
  rfl

/-- A distance is the difference of the residues. -/
theorem distance_ofResidue (start : Address) (remainder : ZMod 4096) :
    start.distance (ofResidue remainder) = (remainder - residue start).val := by
  have hremainder : remainder
      = residue start + (start.distance (ofResidue remainder) : ZMod 4096) := by
    rw [← residue_offset, offset_distance, residue_ofResidue]
  calc start.distance (ofResidue remainder)
      = (start.distance (ofResidue remainder) : ZMod 4096).val :=
        (ZMod.val_cast_of_lt (distance_lt ..)).symm
    _ = (remainder - residue start).val := by rw [← sub_eq_iff_eq_add'.mpr hremainder]

theorem ofResidue_add (address : Address) (distance : Nat) :
    ofResidue (residue address + (distance : ZMod 4096)) = address.offset distance := by
  rw [← residue_offset, ofResidue_residue]

end Address

namespace Position

theorem ofResidues_eq_wrap {column : ZMod 64} {row : ZMod 32} {x y : Nat} :
    ofResidues column row = wrap x y ↔ column = (x : ZMod 64) ∧ row = (y : ZMod 32) := by
  have hcolumn : column = (x : ZMod 64) ↔ column.val % 64 = x % 64 := by
    rw [← ZMod.natCast_eq_natCast_iff', ZMod.natCast_zmod_val]
  have hrow : row = (y : ZMod 32) ↔ row.val % 32 = y % 32 := by
    rw [← ZMod.natCast_eq_natCast_iff', ZMod.natCast_zmod_val]
  rw [hcolumn, hrow, ofResidues, wrap, wrap, Position.mk.injEq, Fin.ext_iff, Fin.ext_iff]
  rfl

@[simp] theorem ofResidues_natCast (x y : Nat) :
    ofResidues (x : ZMod 64) (y : ZMod 32) = wrap x y :=
  ofResidues_eq_wrap.mpr ⟨rfl, rfl⟩

/-- Every pixel is named by its column and its row. -/
theorem ofResidues_column_row (position : Position) :
    ofResidues (position.column.val : ZMod 64) (position.row.val : ZMod 32) = position := by
  rw [ofResidues_natCast, wrap]
  simp

end Position

/-! ## The stack -/

namespace CallStack

/-- The return addresses as residues, the most recent one first. -/
def residues (stack : CallStack Address) : List (ZMod 4096) :=
  stack.toList.map residue

@[simp] theorem length_residues (stack : CallStack Address) :
    stack.residues.length = stack.depth := by
  rw [residues, List.length_map, length_toList]

theorem length_residues_le (stack : CallStack Address) : stack.residues.length ≤ 16 := by
  rw [length_residues]
  exact stack.depth_le

theorem residues_of_push {stack pushed : CallStack Address} {address : Address}
    (hpush : stack.push address = .ok pushed) :
    pushed.residues = residue address :: stack.residues := by
  rw [residues, toList_of_push hpush]
  rfl

theorem residues_of_pop {stack popped : CallStack Address} {address : Address}
    (hpop : stack.pop = .ok (address, popped)) :
    stack.residues = residue address :: popped.residues := by
  rw [residues, toList_of_pop hpop]
  rfl

end CallStack

/-! ## Machines -/

/-- The abstract machine that a machine is one of. -/
def Machine.abstraction (machine : Machine) : Abstract.Machine where
  counter := residue machine.counter
  index := residue machine.index
  memory := fun address => machine.memory.read (.ofNat address.val)
  register := fun x => machine.register (lastDigit x.val)
  stack := ⟨machine.stack.residues, machine.stack.length_residues_le⟩
  screen := fun column row => machine.screen.isLit (.ofResidues column row)
  flags := fun place => machine.flags.bytes.get place
  delay := machine.timers.delay
  sound := machine.timers.sound
  keys := machine.keys.mask
  waiting := machine.keys.waiting.map residue
  stream := Random.stream machine.random.seed
  position := machine.random.position

namespace Machine

variable (machine : Machine)

@[simp] theorem abstraction_register (x : Register) :
    machine.abstraction.register (residue x) = machine.register x := by
  simp [abstraction]

theorem fetch_abstraction : machine.abstraction.fetch = machine.word.toNat := by
  have hhigh : (machine.memory.read machine.counter).toNat < 256 := UInt8.toNat_lt _
  have hlow : (machine.memory.read (machine.counter.offset 1)).toNat < 256 := UInt8.toNat_lt _
  have hnext : ofResidue (residue machine.counter + 1) = machine.counter.offset 1 := by
    simpa using Address.ofResidue_add machine.counter 1
  simp only [Abstract.Machine.fetch, abstraction, Address.ofNat_val, ofResidue_residue, hnext, word,
    Memory.word, UInt16.toNat_ofNat']
  omega

@[simp] theorem abstraction_advance : machine.advance.abstraction = machine.abstraction.next := by
  simp [advance, abstraction, Abstract.Machine.next, register]

@[simp] theorem abstraction_skipWhen (condition : Bool) :
    (machine.skipWhen condition).abstraction = machine.abstraction.skipIf condition := by
  cases condition with
  | false => simp [skipWhen, abstraction, Abstract.Machine.skipIf, register]
  | true => simp [skipWhen, abstraction, Abstract.Machine.skipIf, register]

@[simp] theorem abstraction_goTo (target : Address) :
    (machine.goTo target).abstraction = machine.abstraction.goTo (residue target) := rfl

@[simp] theorem abstraction_setRegister (x : Register) (value : UInt8) :
    (machine.setRegister x value).abstraction = machine.abstraction.set (residue x) value := by
  have hregister : (fun other : ZMod 16 =>
      (machine.setRegister x value).register (ofResidue other))
      = Function.update machine.abstraction.register (residue x) value := by
    funext other
    rw [Function.update_apply, register_setRegister]
    refine if_congr ?_ rfl rfl
    rw [eq_comm, ofResidue_eq_iff]
  simp only [abstraction, Abstract.Machine.set, Abstract.Machine.mk.injEq]
  exact ⟨rfl, rfl, rfl, hregister, rfl, rfl, rfl, rfl, rfl, rfl, rfl, rfl, rfl⟩

@[simp] theorem abstraction_setWithFlag (x : Register) (value : UInt8) (flag : Bool) :
    (machine.setWithFlag x value flag).abstraction
      = machine.abstraction.setFlagged (residue x) value flag := by
  rw [setWithFlag, abstraction_setRegister, abstraction_setRegister, Abstract.Machine.setFlagged]
  rfl

/-- Storing a block is storing its bytes by their distances. -/
theorem abstraction_writeBlock (data : List UInt8) (byte : ℕ → UInt8)
    (hlength : data.length ≤ 16) (hbyte : ∀ place < data.length, ∀ other,
      data.getD place other = byte place) :
    { machine with memory := machine.memory.writeBlock machine.index data }.abstraction
      = machine.abstraction.store data.length byte := by
  have hmemory : (fun address : ZMod 4096 =>
      (machine.memory.writeBlock machine.index data).read (.ofNat address.val))
      = (machine.abstraction.store data.length byte).memory := by
    funext address
    rw [Memory.read_writeBlock _ _ _ (by omega), Address.ofNat_val, Address.distance_ofResidue]
    show _ = if (address - residue machine.index).val < data.length then _ else _
    -- a cell behind the end of the block keeps its byte
    by_cases hinside : (address - residue machine.index).val < data.length
    · rw [if_pos hinside, hbyte _ hinside]
      rfl
    · rw [if_neg hinside, List.getD_eq_default _ _ (by omega)]
      rfl
  rw [abstraction, hmemory]
  rfl

/-- Replacing the first registers is replacing each of them. -/
theorem abstraction_setFirstRegisters (values : List UInt8) (x : Register) (value : ℕ → UInt8)
    (hlength : values.length = x.val + 1) (hvalue : ∀ place ≤ x.val, ∀ other,
      values.getD place other = value place) :
    (machine.setFirstRegisters values).abstraction
      = machine.abstraction.setUpTo (residue x) value := by
  have hregister : (fun other : ZMod 16 =>
      (machine.setFirstRegisters values).register (lastDigit other.val))
      = (machine.abstraction.setUpTo (residue x) value).register := by
    funext other
    have hread : (machine.setFirstRegisters values).register (lastDigit other.val)
        = values.getD other.val (machine.register (lastDigit other.val)) := by
      simp [setFirstRegisters, register]
    rw [hread]
    show _ = if other.val ≤ (residue x).val then _ else _
    rw [val_residue]
    by_cases hfirst : other.val ≤ x.val
    · rw [if_pos hfirst, hvalue _ hfirst]
    · rw [if_neg hfirst, List.getD_eq_default _ _ (by omega)]
      rfl
  rw [abstraction, hregister]
  rfl

/-! ## Sprites -/

/-- The abstract sprite covers the pixels that are flipped. -/
theorem covers_abstraction (x y : Nat) {height : Nat} (hheight : height ≤ 32) (column : ZMod 64)
    (row : ZMod 32) :
    machine.abstraction.covers x y height column row
      = decide (Position.ofResidues column row ∈
          Screen.spritePositions x y (machine.memory.readBlock machine.index height)) := by
  have hbyte : ∀ down < height, (machine.memory.readBlock machine.index height).getD down 0
      = machine.abstraction.memory (machine.abstraction.index + down) := by
    intro down hdown
    rw [Memory.getD_readBlock _ _ hdown]
    exact congrArg machine.memory.read (Address.ofResidue_add machine.index down).symm
  rw [Bool.eq_iff_iff, decide_eq_true_iff, Screen.mem_spritePositions, Memory.length_readBlock]
  simp only [Abstract.Machine.covers, Bool.and_eq_true, decide_eq_true_iff,
    Position.ofResidues_eq_wrap]
  constructor
  -- how far a pixel lies from the corner tells its row and its bit
  · rintro ⟨⟨hdown, hacross⟩, hbit⟩
    refine ⟨_, hdown, _, hacross, ?_, ?_, ?_⟩
    · rw [hbyte _ hdown]
      exact hbit
    · exact (eq_natCast_add_iff (by omega)).mpr rfl
    · exact (eq_natCast_add_iff (by omega)).mpr rfl
  · rintro ⟨down, hdown, across, hacross, hbit, hcolumn, hrow⟩
    have hacross' := (eq_natCast_add_iff (by omega)).mp hcolumn
    have hdown' := (eq_natCast_add_iff (by omega)).mp hrow
    rw [hacross', hdown', ← hbyte down hdown]
    exact ⟨⟨hdown, hacross⟩, hbit⟩

/-- Drawing a sprite is one exclusive or. -/
theorem abstraction_drawSprite (x y : Register) (height : Fin 16) :
    (machine.drawSprite x y height).abstraction
      = machine.abstraction.draw (machine.register x).toNat (machine.register y).toNat
          height.val := by
  have hheight : height.val ≤ 32 := by omega
  have hlength : (machine.memory.readBlock machine.index height.val).length ≤ 32 := by
    rw [Memory.length_readBlock]
    exact hheight
  have hcovers := machine.covers_abstraction (machine.register x).toNat (machine.register y).toNat
    hheight
  have hscreen : (fun column row => (machine.screen.draw (machine.register x) (machine.register y)
        (machine.memory.readBlock machine.index height.val)).1.isLit (.ofResidues column row))
      = fun column row => machine.abstraction.screen column row
        ^^ machine.abstraction.covers (machine.register x).toNat (machine.register y).toNat
          height.val column row := by
    funext column row
    rw [Screen.isLit_draw _ _ _ hlength, hcovers]
    rfl
  have hcollision : (machine.screen.draw (machine.register x) (machine.register y)
        (machine.memory.readBlock machine.index height.val)).2 = true ↔
      machine.abstraction.Collides (machine.register x).toNat (machine.register y).toNat
        height.val := by
    rw [Screen.collision_draw _ _ _ hlength, List.any_eq_true]
    simp only [Abstract.Machine.Collides, hcovers, decide_eq_true_iff]
    constructor
    · rintro ⟨position, hposition, hlit⟩
      refine ⟨position.column.val, position.row.val, ?_, ?_⟩
      · rwa [Position.ofResidues_column_row]
      · show machine.screen.isLit (.ofResidues _ _) = true
        rwa [Position.ofResidues_column_row]
    · rintro ⟨column, row, hposition, hlit⟩
      exact ⟨_, hposition, hlit⟩
  classical
  rw [drawSprite, Abstract.Machine.draw, abstraction_setRegister, ← hscreen,
    ← if_congr hcollision rfl rfl]
  rfl

end Machine

end Chip8
