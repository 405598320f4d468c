import Mathlib.Data.List.GetD
import Chip8.Memory

/-!
# Blocks of memory

A block that is written shows up cell by cell: how far a cell lies behind the
start of the block tells which byte it holds afterwards.  Distances wrap as
addresses do, and of a block no longer than memory no byte is lost.
-/

namespace Chip8

/-! ## Distances -/

/-- How many places one has to go on from `start` to get to an address. -/
def Address.distance (start address : Address) : Nat :=
  (4096 - start.val + address.val) % 4096

namespace Address

theorem distance_lt (start address : Address) : start.distance address < 4096 :=
  Nat.mod_lt _ (by decide)

@[simp] theorem distance_self (address : Address) : address.distance address = 0 := by
  unfold distance
  omega

/-- Going on by the distance leads to the address. -/
@[simp] theorem offset_distance (start address : Address) :
    start.offset (start.distance address) = address := by
  apply Fin.ext
  rw [val_offset]
  unfold distance
  omega

/-- The start itself lies behind all other cells if one begins right after it. -/
theorem distance_offset_one_self (start : Address) : (start.offset 1).distance start = 4095 := by
  unfold distance
  rw [val_offset]
  omega

/-- Any other cell is one place closer to the cell after the start. -/
theorem distance_of_ne {start address : Address} (hne : start ≠ address) :
    start.distance address = (start.offset 1).distance address + 1 := by
  have hval : start.val ≠ address.val := fun hval => hne (Fin.ext hval)
  unfold distance
  rw [val_offset]
  omega

/-- Without wrapping, a distance is a difference. -/
theorem distance_of_le {start address : Address} (hle : start.val ≤ address.val) :
    start.distance address = address.val - start.val := by
  unfold distance
  omega

/-- Behind the end of memory come the cells before the start. -/
theorem distance_of_lt {start address : Address} (hlt : address.val < start.val) :
    start.distance address = 4096 - start.val + address.val := by
  unfold distance
  omega

/-- Going on by less than the size of memory can be told from where it leads. -/
theorem distance_offset (start : Address) {place : Nat} (hplace : place < 4096) :
    start.distance (start.offset place) = place := by
  unfold distance
  rw [val_offset]
  omega

/-- The address is one of so many from a start on. -/
def InBlock (start : Address) (count : Nat) (address : Address) : Prop :=
  ∃ place < count, start.offset place = address

theorem inBlock_iff {start address : Address} {count : Nat} (hcount : count ≤ 4096) :
    start.InBlock count address ↔ start.distance address < count := by
  constructor
  · rintro ⟨place, hplace, rfl⟩
    rw [distance_offset start (by omega)]
    exact hplace
  · intro hdistance
    exact ⟨start.distance address, hdistance, start.offset_distance address⟩

end Address

/-! ## Reading a block that was written -/

namespace Memory

/-- After a block is written, a cell holds the byte of the block that belongs to
its distance from the start, and its old byte if there is none. -/
theorem read_writeBlock (memory : Memory) (start : Address) (data : List UInt8)
    (hlength : data.length ≤ 4096) (address : Address) :
    (memory.writeBlock start data).read address
      = data.getD (start.distance address) (memory.read address) := by
  induction data generalizing memory start with
  | nil => simp [writeBlock]
  | cons byte rest ih =>
      rw [List.length_cons] at hlength
      rw [writeBlock, ih (memory.write start byte) (start.offset 1) (by omega)]
      by_cases hstart : start = address
      · subst hstart
        -- the rest of the block is too short to come round to its start again
        have hrest : rest.length ≤ (start.offset 1).distance start := by
          rw [Address.distance_offset_one_self]
          omega
        rw [Address.distance_self, List.getD_cons_zero, List.getD_eq_default _ _ hrest,
          read_write_self]
      · rw [Address.distance_of_ne hstart, List.getD_cons_succ, read_write_of_ne memory byte hstart]

/-- A block that is written leaves the cells outside of it alone. -/
theorem read_writeBlock_of_not_inBlock (memory : Memory) {start address : Address}
    {data : List UInt8} (hlength : data.length ≤ 4096)
    (houtside : ¬ start.InBlock data.length address) :
    (memory.writeBlock start data).read address = memory.read address := by
  rw [Address.inBlock_iff hlength, Nat.not_lt] at houtside
  rw [read_writeBlock memory start data hlength, List.getD_eq_default _ _ houtside]

/-- A block that does not wrap takes the place of its own cells and leaves the others. -/
theorem read_writeBlock_of_fits (memory : Memory) (start : Address) {data : List UInt8}
    (hfits : start.val + data.length ≤ 4096) (address : Address) :
    (memory.writeBlock start data).read address
      = if start.val ≤ address.val then data.getD (address.val - start.val) (memory.read address)
        else memory.read address := by
  rw [read_writeBlock memory start data (by omega)]
  by_cases hbefore : start.val ≤ address.val
  · rw [if_pos hbefore, Address.distance_of_le hbefore]
  · -- it reaches no cell before its start
    have hafter : data.length ≤ start.distance address := by
      rw [Address.distance_of_lt (Nat.lt_of_not_le hbefore)]
      omega
    rw [if_neg hbefore, List.getD_eq_default _ _ hafter]

theorem writeBlock_concat (memory : Memory) (start : Address) (data : List UInt8) (byte : UInt8) :
    memory.writeBlock start (data ++ [byte])
      = (memory.writeBlock start data).write (start.offset data.length) byte := by
  induction data generalizing memory start with
  | nil => simp [writeBlock]
  | cons first rest ih =>
      rw [List.cons_append, writeBlock, ih, writeBlock, Address.offset_offset, List.length_cons,
        Nat.add_comm 1]

/-- The bytes of a block that is read are those at their distances from its
start. -/
theorem getD_readBlock (memory : Memory) (start : Address) {count place : Nat}
    (hplace : place < count) (other : UInt8) :
    (memory.readBlock start count).getD place other = memory.read (start.offset place) := by
  simp [readBlock, hplace]

/-! ## Memories that differ in some cells -/

theorem readBlock_congr {first second : Memory} {start : Address} {count : Nat}
    (hsame : ∀ address, start.InBlock count address → second.read address = first.read address) :
    second.readBlock start count = first.readBlock start count := by
  apply List.map_congr_left
  intro place hplace
  exact hsame _ ⟨place, List.mem_range.mp hplace, rfl⟩

/-- A block that is written to both memories leaves no difference in its own cells. -/
theorem read_writeBlock_congr {first second : Memory} {start address : Address}
    {data : List UInt8} (hlength : data.length ≤ 4096)
    (hsame : ¬ start.InBlock data.length address → second.read address = first.read address) :
    (second.writeBlock start data).read address = (first.writeBlock start data).read address := by
  rw [read_writeBlock second start data hlength, read_writeBlock first start data hlength]
  by_cases hinside : start.distance address < data.length
  · rw [List.getD_eq_getElem _ _ hinside, List.getD_eq_getElem _ _ hinside]
  · rw [hsame ((Address.inBlock_iff hlength).not.mpr hinside)]

end Memory

end Chip8
