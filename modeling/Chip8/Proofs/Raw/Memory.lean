import Chip8.Proofs.Memory.Blocks
import Chip8.Proofs.Raw.Checked
import Chip8.Proofs.Raw.Words

/-!
# Memory under words

Whatever a word holds, its low twelve bits are an address, so no access to
memory crashes, and each does what the access through the address does.
-/

namespace Chip8.Raw

/-! ## Words as addresses -/

@[simp] theorem val_addressOf (word : UInt16) : (addressOf word).val = word.toNat % 4096 := rfl

/-- Words wrap later than addresses do, which makes no difference. -/
theorem addressOf_add (word distance : UInt16) :
    addressOf (word + distance) = (addressOf word).offset distance.toNat := by
  apply Fin.ext
  rw [Address.val_offset, val_addressOf, val_addressOf, UInt16.toNat_add]
  omega

theorem addressOf_add_ofNat (word : UInt16) (distance : Nat) :
    addressOf (word + UInt16.ofNat distance) = (addressOf word).offset distance := by
  apply Fin.ext
  rw [addressOf_add, Address.val_offset, Address.val_offset, UInt16.toNat_ofNat']
  omega

@[simp] theorem addressOf_masked (word : UInt16) :
    addressOf (word &&& addressMask) = addressOf word := by
  apply Fin.ext
  rw [val_addressOf, val_addressOf, toNat_and_addressMask]
  omega

@[simp] theorem addressOf_ofNat (address : Address) :
    addressOf (UInt16.ofNat address.val) = address := by
  apply Fin.ext
  rw [val_addressOf, UInt16.toNat_ofNat']
  omega

/-! ## Bytes and blocks -/

variable (memory : Memory) (address : UInt16)

theorem readByte_eq : readByte memory address = .ok (memory.read (addressOf address)) := by
  rw [readByte, entryAt_eq memory.cells (toNat_and_addressMask_lt address)]
  simp only [toNat_and_addressMask]
  rfl

theorem writeByte_eq (byte : UInt8) :
    writeByte memory address byte = .ok (memory.write (addressOf address) byte) := by
  rw [writeByte, replaceAt_eq memory.cells byte (toNat_and_addressMask_lt address)]
  simp only [ok_bind, toNat_and_addressMask]
  rfl

theorem writeFrom_eq (offset : Nat) (data : List UInt8) :
    writeFrom memory address offset data
      = .ok (memory.writeBlock ((addressOf address).offset offset) data) := by
  induction data generalizing memory offset with
  | nil => rfl
  | cons byte rest ih =>
      rw [writeFrom, writeByte_eq, addressOf_add_ofNat, ok_bind, ih, Memory.writeBlock,
        Address.offset_offset]

theorem writeBytes_eq (data : List UInt8) :
    writeBytes memory data address = .ok (memory.writeBlock (addressOf address) data) := by
  rw [writeBytes, writeFrom_eq, Address.offset_zero]

theorem readFrom_eq (offset : Nat) (out : List UInt8) :
    readFrom memory address offset out
      = .ok (memory.readBlock ((addressOf address).offset offset) out.length) := by
  induction out generalizing offset with
  | nil => rfl
  | cons byte rest ih =>
      rw [readFrom, readByte_eq, addressOf_add_ofNat, ih, ok_bind, ok_bind, pure_eq_ok,
        List.length_cons, Memory.readBlock, Memory.readBlock, List.range_succ_eq_map]
      simp [Nat.add_comm, Nat.add_left_comm, Function.comp_def]

theorem readBytes_eq (out : List UInt8) :
    readBytes memory address out = .ok (memory.readBlock (addressOf address) out.length) := by
  rw [readBytes, readFrom_eq, Address.offset_zero]

/-- The high byte shifted up and the low byte fill a word between them. -/
private theorem joined_bytes (high low : UInt8) :
    (high.toUInt16 <<< 8) ||| low.toUInt16 = UInt16.ofNat (256 * high.toNat + low.toNat) := by
  have hhigh : high.toNat < 256 := high.toNat_lt
  have hlow : low.toNat < 256 := low.toNat_lt
  apply UInt16.toNat_inj.mp
  rw [UInt16.toNat_or, UInt16.toNat_shiftLeft, UInt8.toNat_toUInt16, UInt8.toNat_toUInt16,
    UInt16.toNat_ofNat']
  have hshift : high.toNat <<< ((8 : UInt16).toNat % 16) % 65536 = high.toNat <<< 8 := by
    rw [Nat.mod_eq_of_lt]
    · rfl
    · show high.toNat <<< 8 < 65536
      rw [Nat.shiftLeft_eq]
      omega
  rw [hshift, ← Nat.shiftLeft_add_eq_or_of_lt hlow, Nat.shiftLeft_eq]
  omega

theorem wordAt_eq : wordAt memory address = .ok (memory.word (addressOf address)) := by
  rw [wordAt, readByte_eq, readByte_eq, addressOf_add, ok_bind, ok_bind, pure_eq_ok,
    joined_bytes]
  rfl

/-! ## Loading -/

theorem freshMemory_eq : freshMemory = .ok Memory.fresh :=
  writeBytes_eq .zero 0x050 Font.glyphs

/-- A block that does not wrap can be copied to its cells as well. -/
theorem replaceRange_eq_writeBlock (start : Address) (data : List UInt8)
    (hrange : start.val + data.length ≤ 4096) :
    replaceRange memory.cells start.val (start.val + data.length) data
      = .ok (memory.writeBlock start data).cells := by
  rw [replaceRange_eq memory.cells start.val data hrange]
  refine congrArg Except.ok (Vector.ext ?_)
  intro index hindex
  have hcell : (memory.writeBlock start data).cells[index]
      = (memory.writeBlock start data).read ⟨index, hindex⟩ := rfl
  rw [hcell, Memory.read_writeBlock_of_fits memory start hrange, Vector.getElem_ofFn]
  rfl

/-- A program is copied to the cells that it would be written to one by one. -/
theorem loadProgram_eq (program : List UInt8) :
    loadProgram memory program = .ok (match memory.loadProgram program with
      | .error fault => (.error fault, memory)
      | .ok loaded => (.ok (), loaded)) := by
  unfold loadProgram Memory.loadProgram
  by_cases hlength : program.length ≤ Memory.maxProgramLength
  · have hfits : Memory.programStart.val + program.length ≤ 4096 := by
      show 512 + program.length ≤ 4096
      unfold Memory.maxProgramLength at hlength
      omega
    have hstop : Memory.programStart.val + program.length < UInt64.size := by
      unfold UInt64.size
      omega
    have hstart : programAddress.toNat = Memory.programStart.val := rfl
    rw [if_neg (by omega), if_pos hlength, hstart, asSize_eq hstop, ok_bind,
      replaceRange_eq_writeBlock memory _ program hfits]
    rfl
  · rw [if_pos (by omega), if_neg hlength]
    rfl

/-- The glyphs lie where sixteen bits can name them. -/
theorem glyphAddress_eq (digit : UInt8) :
    glyphAddress digit = .ok (UInt16.ofNat (Memory.glyphAddress digit).val) := by
  have hdigit : digit.toNat % 16 < 16 := Nat.mod_lt _ (by decide)
  rw [glyphAddress, toNat_and_lowNibble,
    asWord_eq (by unfold Font.glyphHeight UInt16.size; omega)]
  congr 2
  show _ = (80 + Font.glyphHeight * (digit.toNat % 16)) % 4096
  unfold Font.glyphHeight
  omega

end Chip8.Raw
