import Mathlib.Data.List.Induction
import Chip8.Proofs.Raw.Memory

/-!
# What the cells of memory hold

Bytes are stored one at a time, in blocks of any length from any address on, and as a
program.  The places of a block are cut down to 16 bits, added to the address in 16 bits and
cut down to the twelve bits of a cell, so a long block comes round to its own cells, and of
several bytes for one cell the last one stays.  All this makes memory 4096 cells, each of
which holds what was last stored there, or what it held in the beginning.
-/

namespace Chip8

/-! ## Blocks of any length -/

/-- The byte that a block from `start` on leaves in a cell: of the places that lead there,
the largest one decides. -/
def lastByte? (data : List UInt8) (start cell : Nat) : Option UInt8 :=
  ((List.range data.length).reverse.find? fun place => (start + place) % 4096 = cell).bind
    (data[·]?)

theorem lastByte?_concat (data : List UInt8) (byte : UInt8) (start cell : Nat) :
    lastByte? (data ++ [byte]) start cell
      = if (start + data.length) % 4096 = cell then some byte else lastByte? data start cell := by
  rw [lastByte?, List.length_append, List.length_singleton, List.range_succ, List.reverse_append,
    List.reverse_singleton, List.singleton_append, List.find?_cons]
  by_cases hcell : (start + data.length) % 4096 = cell
  · simp [hcell]
  · rw [if_neg hcell, decide_eq_false hcell]
    apply Option.bind_congr
    intro place hplace
    have hmem := List.mem_of_find?_eq_some hplace
    rw [List.mem_reverse, List.mem_range] at hmem
    exact List.getElem?_append_left hmem

/-- Blocks from two starts that stand for the same cell leave the same bytes. -/
theorem lastByte?_mod (data : List UInt8) (start cell : Nat) :
    lastByte? data (start % 4096) cell = lastByte? data start cell := by
  simp only [lastByte?, Nat.mod_add_mod]

/-- The block comes round to its first cell, which its last byte takes. -/
example : lastByte? (1 :: List.replicate 4095 2 ++ [3]) 0xFFFF 0xFFF = some 3 := by
  decide +kernel

namespace Memory

theorem read_write (memory : Memory) (address other : Address) (byte : UInt8) :
    (memory.write address byte).read other
      = if address = other then byte else memory.read other := by
  by_cases hsame : address = other
  · rw [if_pos hsame, hsame, read_write_self]
  · rw [if_neg hsame, read_write_of_ne memory byte hsame]

/-- Whatever the length of a block is, a cell holds the last byte of it that is meant for it. -/
theorem read_writeBlock_last (memory : Memory) (start : Address) (data : List UInt8)
    (address : Address) :
    (memory.writeBlock start data).read address
      = (lastByte? data start.val address.val).getD (memory.read address) := by
  induction data using List.reverseRecOn with
  | nil => rfl
  | append_singleton data byte ih =>
      have hcell : start.offset data.length = address ↔
          (start.val + data.length) % 4096 = address.val := by
        rw [Fin.ext_iff, Address.val_offset]
      rw [writeBlock_concat, read_write, ih, lastByte?_concat]
      by_cases hreached : (start.val + data.length) % 4096 = address.val
      · rw [if_pos (hcell.mpr hreached), if_pos hreached, Option.getD_some]
      · rw [if_neg (hcell.not.mpr hreached), if_neg hreached]

/-- What a cell holds in the beginning: a row of the font, or zero. -/
def initialByte (cell : Nat) : UInt8 :=
  if 0x050 ≤ cell then Font.glyphs.getD (cell - 0x050) 0 else 0

theorem read_fresh (address : Address) : fresh.read address = initialByte address.val := by
  have hzero : zero.read address = 0 := Vector.getElem_replicate address.isLt
  have hfits : fontStart.val + Font.glyphs.length ≤ 4096 := by decide
  rw [fresh, read_writeBlock_of_fits zero fontStart hfits, hzero]
  rfl

end Memory

namespace Raw

/-! ## Calls that store -/

/-- A call that stores bytes in memory. -/
inductive MemoryCall where
  | byte (address : UInt16) (value : UInt8)
  | block (data : List UInt8) (address : UInt16)
  | program (bytes : List UInt8)

/-- The byte that a call leaves in a cell, unless it does not reach it.  A program that is
too long reaches no cell. -/
def MemoryCall.byteAt? (cell : Nat) : MemoryCall → Option UInt8
  | .byte address value => if address.toNat % 4096 = cell then some value else none
  | .block data address => lastByte? data address.toNat cell
  | .program bytes =>
      if bytes.length ≤ 3584 ∧ 0x200 ≤ cell then bytes[cell - 0x200]? else none

/-- The byte that the last call to reach a cell has left there. -/
def lastStored? (calls : List MemoryCall) (cell : Nat) : Option UInt8 :=
  calls.reverse.findSome? fun call => call.byteAt? cell

theorem lastStored?_cons (call : MemoryCall) (calls : List MemoryCall) (cell : Nat) :
    lastStored? (call :: calls) cell = (lastStored? calls cell).or (call.byteAt? cell) := by
  rw [lastStored?, List.reverse_cons, List.findSome?_append, List.findSome?_singleton]
  rfl

/-- Store what a call says. -/
def store (memory : Memory) : MemoryCall → Checked (Except Fault Unit × Memory)
  | .byte address value => do return (.ok (), ← writeByte memory address value)
  | .block data address => do return (.ok (), ← writeBytes memory data address)
  | .program bytes => loadProgram memory bytes

/-- The memory after calls, whatever their results are. -/
def storeAll (memory : Memory) : List MemoryCall → Checked Memory
  | [] => return memory
  | call :: rest => do
      let (_, next) ← store memory call
      storeAll next rest

theorem loadProgram_of_le (memory : Memory) {program : List UInt8}
    (hlength : program.length ≤ 3584) :
    loadProgram memory program
      = .ok (.ok (), memory.writeBlock Memory.programStart program) := by
  have hloaded : memory.loadProgram program
      = .ok (memory.writeBlock Memory.programStart program) := if_pos hlength
  rw [loadProgram_eq, hloaded]

theorem loadProgram_of_not_le (memory : Memory) {program : List UInt8}
    (hlength : ¬ program.length ≤ 3584) :
    loadProgram memory program = .ok (.error .programTooLong, memory) := by
  have hrefused : memory.loadProgram program = .error .programTooLong := if_neg hlength
  rw [loadProgram_eq, hrefused]

/-- A program that fits takes the cells from `0x200` on that it needs. -/
theorem read_loadProgram (memory : Memory) {program : List UInt8}
    (hlength : program.length ≤ 3584) (address : Address) :
    (memory.writeBlock Memory.programStart program).read address
      = if 0x200 ≤ address.val then program.getD (address.val - 0x200) (memory.read address)
        else memory.read address := by
  have hfits : Memory.programStart.val + program.length ≤ 4096 := by
    show 512 + program.length ≤ 4096
    omega
  exact Memory.read_writeBlock_of_fits memory Memory.programStart hfits address

/-- A call leaves its bytes in the cells that it reaches, and the others as they were. -/
theorem exists_store (memory : Memory) (call : MemoryCall) :
    ∃ result next, store memory call = .ok (result, next) ∧
      ∀ address, next.read address = (call.byteAt? address.val).getD (memory.read address) := by
  cases call with
  | byte address value =>
      refine ⟨.ok (), memory.write (addressOf address) value, ?_, ?_⟩
      · rw [store, writeByte_eq]
        rfl
      · intro other
        have hcell : addressOf address = other ↔ address.toNat % 4096 = other.val := by
          rw [Fin.ext_iff, val_addressOf]
        rw [Memory.read_write, MemoryCall.byteAt?]
        by_cases hreached : address.toNat % 4096 = other.val
        · rw [if_pos (hcell.mpr hreached), if_pos hreached, Option.getD_some]
        · rw [if_neg (hcell.not.mpr hreached), if_neg hreached, Option.getD_none]
  | block data address =>
      refine ⟨.ok (), memory.writeBlock (addressOf address) data, ?_, ?_⟩
      · rw [store, writeBytes_eq]
        rfl
      · intro other
        rw [Memory.read_writeBlock_last, val_addressOf, lastByte?_mod, MemoryCall.byteAt?]
  | program bytes =>
      by_cases hlength : bytes.length ≤ 3584
      · refine ⟨_, _, loadProgram_of_le memory hlength, ?_⟩
        intro other
        rw [read_loadProgram memory hlength, MemoryCall.byteAt?]
        by_cases hcell : 0x200 ≤ other.val
        · rw [if_pos hcell, if_pos ⟨hlength, hcell⟩, List.getD_eq_getElem?_getD]
        · rw [if_neg hcell, if_neg (fun hreached => hcell hreached.2), Option.getD_none]
      · refine ⟨_, _, loadProgram_of_not_le memory hlength, ?_⟩
        intro other
        rw [MemoryCall.byteAt?, if_neg (fun hreached => hlength hreached.1), Option.getD_none]

/-- After any calls, a cell holds what the last of them to reach it has left there. -/
theorem exists_storeAll (memory : Memory) (calls : List MemoryCall) :
    ∃ last, storeAll memory calls = .ok last ∧
      ∀ address, last.read address
        = (lastStored? calls address.val).getD (memory.read address) := by
  induction calls generalizing memory with
  | nil => exact ⟨memory, rfl, fun _ => rfl⟩
  | cons call rest ih =>
      obtain ⟨result, next, hstore, hnext⟩ := exists_store memory call
      obtain ⟨last, hrest, hlast⟩ := ih next
      refine ⟨last, ?_, ?_⟩
      · rw [storeAll, hstore]
        exact hrest
      · intro address
        rw [hlast, hnext, lastStored?_cons, Option.getD_or]

/-! ## Reading cells -/

/-- Whatever is read from memory comes from the cells: a byte from that of its address, a
block from as many as there is room for, and a word from two, where the last cell is followed
by the first. -/
structure HoldsCells (memory : Memory) (cell : Nat → UInt8) : Prop where
  byte : ∀ address, readByte memory address = .ok (cell (address.toNat % 4096))
  block : ∀ address out, readBytes memory address out
    = .ok ((List.range out.length).map fun place => cell ((address.toNat + place) % 4096))
  word : ∀ address, ∃ word, wordAt memory address = .ok word ∧
    word.toNat = 256 * (cell (address.toNat % 4096)).toNat
      + (cell ((address.toNat + 1) % 4096)).toNat

theorem holdsCells {memory : Memory} {cell : Nat → UInt8}
    (hcell : ∀ address, memory.read address = cell address.val) : HoldsCells memory cell where
  byte := by
    intro address
    rw [readByte_eq, hcell, val_addressOf]
  block := by
    intro address out
    rw [readBytes_eq, Memory.readBlock]
    simp only [hcell, Address.val_offset, val_addressOf, Nat.mod_add_mod]
  word := by
    intro address
    have hhigh := (cell (address.toNat % 4096)).toNat_lt
    have hlow := (cell ((address.toNat + 1) % 4096)).toNat_lt
    refine ⟨_, wordAt_eq memory address, ?_⟩
    rw [Memory.word, UInt16.toNat_ofNat', hcell, hcell, Address.val_offset, val_addressOf,
      Nat.mod_add_mod]
    omega

/-- After any calls on a new memory, what is read from it are the bytes last stored, or those
of the beginning.  A program of more than 3584 bytes is refused and changes nothing; any
other is stored in its own cells and changes no more than these. -/
theorem cells_hold_last_stores (calls : List MemoryCall) :
    ∃ fresh memory, freshMemory = .ok fresh ∧ storeAll fresh calls = .ok memory ∧
      HoldsCells memory
        (fun cell => (lastStored? calls cell).getD (Memory.initialByte cell)) ∧
      ∀ program : List UInt8,
        if program.length ≤ 3584 then
          ∃ loaded, loadProgram memory program = .ok (.ok (), loaded) ∧
            HoldsCells loaded fun cell =>
              if 0x200 ≤ cell ∧ cell < 0x200 + program.length then
                program.getD (cell - 0x200) 0
              else (lastStored? calls cell).getD (Memory.initialByte cell)
        else
          loadProgram memory program = .ok (.error .programTooLong, memory) := by
  obtain ⟨memory, hmemory, hcells⟩ := exists_storeAll .fresh calls
  have hcell : ∀ address : Address, memory.read address
      = (lastStored? calls address.val).getD (Memory.initialByte address.val) := by
    intro address
    rw [hcells, Memory.read_fresh]
  refine ⟨.fresh, memory, freshMemory_eq, hmemory, holdsCells hcell, ?_⟩
  intro program
  split
  · next hlength =>
    refine ⟨_, loadProgram_of_le memory hlength, holdsCells ?_⟩
    intro address
    rw [read_loadProgram memory hlength]
    by_cases hcovered : 0x200 ≤ address.val ∧ address.val < 0x200 + program.length
    · have hplace : address.val - 0x200 < program.length := by omega
      rw [if_pos hcovered, if_pos hcovered.1, List.getD_eq_getElem _ _ hplace,
        List.getD_eq_getElem _ _ hplace]
    · rw [if_neg hcovered, ← hcell]
      by_cases hafter : 0x200 ≤ address.val
      · rw [if_pos hafter, List.getD_eq_default _ _ (by omega)]
      · rw [if_neg hafter]
  · next hlength => exact loadProgram_of_not_le memory hlength

end Raw

end Chip8
