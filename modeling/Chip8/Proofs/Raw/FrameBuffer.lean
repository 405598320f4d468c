import Chip8.Proofs.Raw.Checked
import Chip8.Proofs.Screen.Sprites
import Chip8.Raw.View

/-!
# Drawing into the packed screen

Drawing bit by bit into bytes flips the pixels of the sprite one after the
other.  The bytes and bits that are touched are the ones where the pixels are
kept, so no index is out of range, whatever the coordinates are.
-/

namespace Chip8

/-! ## The packed form of a screen -/

namespace Screen

theorem packByte_cons (bit : Bool) (rest : List Bool) :
    packByte (bit :: rest) = Nat.bit bit (packByte rest) := by
  rw [packByte, Nat.bit_val, Nat.add_comm]

/-- The bits of a number that is put together from bits. -/
theorem testBit_packByte (bits : List Bool) (place : Nat) :
    (packByte bits).testBit place = bits.getD place false := by
  induction bits generalizing place with
  | nil => simp [packByte]
  | cons bit rest ih =>
      rw [packByte_cons]
      cases place with
      | zero => exact Nat.testBit_bit_zero bit (packByte rest)
      | succ place => exact (Nat.testBit_bit_succ ..).trans (ih place)

/-- Each bit of the packed form is a pixel. -/
theorem testBit_packedByte (screen : Screen) {position bit : Nat} (hbit : bit < 8)
    (hpixel : 8 * position + bit < 2048) :
    (screen.packedByte position).toNat.testBit bit = screen.pixels[8 * position + bit] := by
  rw [packedByte, UInt8.toNat_ofNat', Nat.testBit_mod_two_pow, decide_eq_true hbit,
    Bool.true_and, testBit_packByte, List.getD_eq_getElem?_getD]
  simp [hbit, hpixel, Vector.getD]

end Screen

namespace Raw.FrameBuffer

/-! ## Single bits of a byte -/

theorem toNat_bit {place : Nat} (hplace : place < 8) :
    ((1 : UInt8) <<< UInt8.ofNat place).toNat = 1 <<< place := by
  rw [UInt8.toNat_shiftLeft, UInt8.toNat_ofNat', UInt8.toNat_one]
  have hmod : place % 256 % 8 = place := by omega
  have hlt : 1 <<< place < 256 := one_shiftLeft_lt hplace
  rw [hmod, Nat.mod_eq_of_lt hlt]

/-- Masking a byte with one bit leaves something if the byte has that bit. -/
theorem and_bit_ne_zero (byte : UInt8) {place : Nat} (hplace : place < 8) :
    byte &&& (1 <<< UInt8.ofNat place) ≠ 0 ↔ byte.toNat.testBit place = true := by
  rw [Ne, ← UInt8.toNat_inj, UInt8.toNat_and, toNat_bit hplace]
  exact and_one_shiftLeft_ne_zero byte.toNat place

/-- Flipping one bit of a byte flips no other. -/
theorem testBit_xor_bit (byte : UInt8) {place : Nat} (hplace : place < 8) (other : Nat) :
    (byte ^^^ (1 <<< UInt8.ofNat place)).toNat.testBit other
      = (byte.toNat.testBit other ^^ decide (place = other)) := by
  rw [UInt8.toNat_xor, Nat.testBit_xor, toNat_bit hplace, Nat.one_shiftLeft, Nat.testBit_two_pow]

/-- The bits counted from the high end. -/
theorem bitFromTop_eq : ∀ across : Fin 8,
    (0x80 : UInt8) >>> UInt8.ofNat across.val = 1 <<< UInt8.ofNat (7 - across.val) := by
  decide

/-- Bytes are the same if all of their bits are. -/
theorem byte_ext {first second : UInt8}
    (hbits : ∀ place < 8, first.toNat.testBit place = second.toNat.testBit place) :
    first = second :=
  UInt8.toBitVec_inj.mp (BitVec.eq_of_getLsbD_eq hbits)

/-- A byte without any bit is zero. -/
theorem byte_eq_zero {byte : UInt8}
    (hbits : ∀ across < 8, byte.toNat.testBit (7 - across) = false) : byte = 0 := by
  apply byte_ext
  intro place hplace
  have hbit := hbits (7 - place) (by omega)
  have hback : 7 - (7 - place) = place := by omega
  rw [hback] at hbit
  rw [hbit, UInt8.toNat_zero, Nat.zero_testBit]

/-! ## Single pixels -/

theorem byte_lt (position : Position) : position.index.val / 8 < 256 := by
  omega

theorem bit_lt (position : Position) : position.index.val % 8 < 8 :=
  Nat.mod_lt _ (by decide)

/-- A pixel is kept at the bit that its number names. -/
theorem locate_eq (x y : Nat) :
    locate x y = .ok ((Position.wrap x y).index.val / 8,
      1 <<< UInt8.ofNat ((Position.wrap x y).index.val % 8)) := by
  have hindex : 64 * (y % 32) + x % 64 < UInt64.size := by
    unfold UInt64.size
    omega
  have hbit : (64 * (y % 32) + x % 64) % 8 < 8 := Nat.mod_lt _ (by decide)
  rw [locate, asSize_eq hindex, ok_bind, byteBit_eq hbit]
  rfl

/-- Whether a pixel is lit, read off its byte. -/
theorem isLit_view (buffer : FrameBuffer) (position : Position)
    (hbyte : position.index.val / 8 < 256) :
    buffer.view.isLit position
      = buffer.bytes[position.index.val / 8].toNat.testBit (position.index.val % 8) := by
  simp [Screen.isLit, view]

theorem pixel_eq (buffer : FrameBuffer) (x y : Nat) :
    buffer.pixel x y = .ok (buffer.view.isLit (Position.wrap x y)) := by
  have hbyte := byte_lt (Position.wrap x y)
  rw [pixel, locate_eq]
  simp only [ok_bind]
  rw [entryAt_eq _ hbyte, ok_bind, pure_eq_ok, isLit_view _ _ hbyte]
  simp only [and_bit_ne_zero _ (bit_lt _), Bool.decide_eq_true]

/-- The packed form of the pixels are the bytes themselves. -/
theorem view_bytes (buffer : FrameBuffer) : buffer.view.bytes = buffer.bytes.toList := by
  apply List.ext_getElem
  · simp [Screen.bytes]
  · intro position hposition hlength
    rw [Vector.length_toList] at hlength
    simp only [Screen.bytes, List.getElem_map, List.getElem_range, Vector.getElem_toList]
    apply byte_ext
    intro bit hbit
    have hpixel : 8 * position + bit < 2048 := by omega
    have hbyte : (8 * position + bit) / 8 = position := by omega
    have hplace : (8 * position + bit) % 8 = bit := by omega
    rw [Screen.testBit_packedByte _ hbit hpixel]
    simp only [view, Vector.getElem_ofFn, hbyte, hplace]

/-- The buffer that a screen is packed into. -/
def ofScreen (screen : Screen) : FrameBuffer where
  bytes := Vector.ofFn fun position => screen.packedByte position.val
  dirty := screen.dirty

theorem view_ofScreen (screen : Screen) : (ofScreen screen).view = screen := by
  have hpixels : (ofScreen screen).view.pixels = screen.pixels := by
    apply Vector.ext
    intro index hindex
    have hbit : index % 8 < 8 := Nat.mod_lt _ (by decide)
    have hpixel : 8 * (index / 8) + index % 8 < 2048 := by omega
    simp only [view, ofScreen, Vector.getElem_ofFn, Screen.testBit_packedByte _ hbit hpixel,
      Nat.div_add_mod]
  exact congrArg (fun pixels => (⟨pixels, screen.dirty⟩ : Screen)) hpixels

/-- The bytes with the bit of one pixel flipped. -/
def flipBit (buffer : FrameBuffer) (position : Position) : FrameBuffer :=
  have hbyte : position.index.val / 8 < 256 := by omega
  { bytes := buffer.bytes.set (position.index.val / 8)
      (buffer.bytes[position.index.val / 8] ^^^ (1 <<< UInt8.ofNat (position.index.val % 8)))
    dirty := true }

/-- Flipping a bit flips its pixel. -/
theorem view_flipBit (buffer : FrameBuffer) (position : Position) :
    (buffer.flipBit position).view = { buffer.view.flip position with dirty := true } := by
  have hbit := bit_lt position
  have hlit := isLit_view buffer position (byte_lt position)
  rw [Screen.flip, hlit]
  simp only [flipBit, view, Screen.mk.injEq, and_true]
  apply Vector.ext
  intro index hindex
  rw [Vector.getElem_ofFn, Vector.getElem_set, Vector.getElem_set, Vector.getElem_ofFn]
  -- a pixel other than this one lies in the same byte or in another
  by_cases hsame : position.index.val = index
  · subst hsame
    rw [if_pos rfl, if_pos rfl, testBit_xor_bit _ hbit, decide_eq_true rfl, Bool.xor_true]
  · rw [if_neg hsame]
    by_cases hbytes : position.index.val / 8 = index / 8
    · have hplace : position.index.val % 8 ≠ index % 8 := by omega
      rw [if_pos hbytes, testBit_xor_bit _ hbit, decide_eq_false hplace, Bool.xor_false]
      simp only [hbytes]
    · rw [if_neg hbytes]

@[simp] theorem view_blank : blank.view = .blank := by
  simp only [view, blank, Screen.blank, Screen.mk.injEq, and_true]
  apply Vector.ext
  intro index hindex
  simp

@[simp] theorem view_clear (buffer : FrameBuffer) : buffer.clear.view = buffer.view.clear := by
  simp only [view, clear, Screen.clear, Screen.mk.injEq, and_true]
  apply Vector.ext
  intro index hindex
  simp

/-! ## Sprites -/

/-- Flip one pixel, with the mark that this leaves. -/
def flipMarked (drawing : Screen × Bool) (position : Position) : Screen × Bool :=
  ({ drawing.1.flip position with dirty := true }, drawing.2 || drawing.1.isLit position)

/-- Flipping pixels with marks flips them, and leaves a mark if there are any. -/
theorem foldl_flipMarked (screen : Screen) (collision : Bool) (positions : List Position) :
    positions.foldl flipMarked (screen, collision)
      = ({ (screen.flipAll collision positions).1 with
            dirty := screen.dirty || !positions.isEmpty },
          (screen.flipAll collision positions).2) := by
  induction positions generalizing screen collision with
  | nil => simp [Screen.flipAll]
  | cons position rest ih =>
      rw [List.foldl_cons, flipMarked, ih, Screen.flipAll_dirty]
      simp [Screen.flipAll]

/-- Drawing a bit flips the pixel that stands for it. -/
theorem drawBit_eq (x y : UInt8) (row : UInt8) (drawing : FrameBuffer × Bool) {down across : Nat}
    (hdown : y.toNat + down < UInt64.size) (hacross : across < 8) :
    ∃ drawn, drawBit x y down row drawing across = .ok drawn ∧
      (drawn.1.view, drawn.2) = if row.toNat.testBit (7 - across)
        then flipMarked (drawing.1.view, drawing.2)
          (Position.wrap (x.toNat + across) (y.toNat + down))
        else (drawing.1.view, drawing.2) := by
  have hx : x.toNat < 256 := x.toNat_lt
  have hcolumn : x.toNat + across < UInt64.size := by
    unfold UInt64.size
    omega
  obtain ⟨buffer, collision⟩ := drawing
  have hset := and_bit_ne_zero row (show 7 - across < 8 by omega)
  rw [← bitFromTop_eq ⟨across, hacross⟩] at hset
  simp only [drawBit, byteBitFromTop_eq hacross, ok_bind]
  by_cases hzero : row &&& (0x80 >>> UInt8.ofNat across) = 0
  · have hunset : row.toNat.testBit (7 - across) = false := by
      by_contra hbit
      exact hset.mpr (by simpa using hbit) hzero
    refine ⟨(buffer, collision), ?_, ?_⟩
    · rw [if_pos hzero]
      rfl
    · rw [hunset]
      rfl
  · have hbyte := byte_lt (Position.wrap (x.toNat + across) (y.toNat + down))
    refine ⟨(buffer.flipBit (Position.wrap (x.toNat + across) (y.toNat + down)),
      collision || buffer.view.isLit (Position.wrap (x.toNat + across) (y.toNat + down))), ?_, ?_⟩
    · rw [if_neg hzero, asSize_eq hcolumn, ok_bind, asSize_eq hdown, ok_bind, locate_eq]
      simp only [ok_bind]
      rw [entryAt_eq _ hbyte, ok_bind, replaceAt_eq _ _ hbyte, isLit_view buffer _ hbyte]
      simp only [ok_bind, and_bit_ne_zero _ (bit_lt _), Bool.decide_eq_true]
      rfl
    · rw [if_pos (hset.mp hzero), flipMarked, view_flipBit]

/-- Drawing bits of a row flips the pixels that stand for them. -/
theorem drawPlaces_eq (x y : UInt8) (row : UInt8) {down : Nat}
    (hdown : y.toNat + down < UInt64.size) (places : List Nat)
    (hplaces : ∀ across ∈ places, across < 8) (drawing : FrameBuffer × Bool) :
    ∃ drawn, places.foldlM (drawBit x y down row) drawing = .ok drawn ∧
      (drawn.1.view, drawn.2) = (places.filterMap fun across =>
        if row.toNat.testBit (7 - across)
        then some (Position.wrap (x.toNat + across) (y.toNat + down)) else none).foldl
          flipMarked (drawing.1.view, drawing.2) := by
  induction places generalizing drawing with
  | nil => exact ⟨drawing, rfl, rfl⟩
  | cons across rest ih =>
      obtain ⟨next, hnext, hview⟩ :=
        drawBit_eq x y row drawing hdown (hplaces across List.mem_cons_self)
      obtain ⟨drawn, hdrawn, hrest⟩ :=
        ih (fun other hother => hplaces other (List.mem_cons_of_mem across hother)) next
      refine ⟨drawn, ?_, ?_⟩
      · rw [List.foldlM_cons, hnext, ok_bind, hdrawn]
      · rw [hrest, hview, List.filterMap_cons]
        by_cases hbit : row.toNat.testBit (7 - across) = true
        · simp only [hbit, if_true, List.foldl_cons]
        · simp only [hbit, if_false, Bool.false_eq_true]

/-- Drawing rows flips the pixels of each of them, if their places can be counted. -/
theorem drawRows_eq (x y : UInt8) (sprite : List UInt8) {down : Nat}
    (hfits : y.toNat + (down + sprite.length) ≤ UInt64.size) (drawing : FrameBuffer × Bool) :
    ∃ drawn, drawRows x y drawing down sprite = .ok drawn ∧
      (drawn.1.view, drawn.2) = ((sprite.zipIdx down).flatMap fun (bits, offset) =>
        Screen.rowPositions x.toNat (y.toNat + offset) bits).foldl
          flipMarked (drawing.1.view, drawing.2) := by
  induction sprite generalizing down drawing with
  | nil => exact ⟨drawing, rfl, rfl⟩
  | cons row rest ih =>
      rw [List.length_cons] at hfits
      obtain ⟨next, hnext, hview⟩ := drawPlaces_eq x y row
        (show y.toNat + down < UInt64.size by omega)
        (List.range 8) (fun across hacross => List.mem_range.mp hacross) drawing
      obtain ⟨drawn, hdrawn, hrest⟩ :=
        ih (show y.toNat + (down + 1 + rest.length) ≤ UInt64.size by omega) next
      refine ⟨drawn, ?_, ?_⟩
      · rw [drawRows, hnext, ok_bind, hdrawn]
      · rw [hrest, hview, List.zipIdx_cons, List.flatMap_cons, List.foldl_append]
        simp only [Screen.rowPositions]

/-- A row flips nothing if it has no bit. -/
theorem isEmpty_rowPositions (x y : Nat) (bits : UInt8) :
    (Screen.rowPositions x y bits).isEmpty = decide (bits = 0) := by
  rw [Bool.eq_iff_iff, List.isEmpty_iff, decide_eq_true_iff, Screen.rowPositions,
    List.filterMap_eq_nil_iff]
  constructor
  · intro hnone
    apply byte_eq_zero
    intro across hacross
    have hbit := hnone across (List.mem_range.mpr hacross)
    simpa using hbit
  · intro hzero across _
    simp [hzero]

/-- A sprite flips nothing if none of its rows has a bit. -/
theorem isEmpty_spriteRows (x y down : Nat) (sprite : List UInt8) :
    ((sprite.zipIdx down).flatMap fun (bits, offset) =>
      Screen.rowPositions x (y + offset) bits).isEmpty = !sprite.any (· ≠ 0) := by
  induction sprite generalizing down with
  | nil => rfl
  | cons row rest ih =>
      have happend : ∀ others, (Screen.rowPositions x (y + down) row ++ others).isEmpty
          = (decide (row = 0) && others.isEmpty) := by
        intro others
        rw [← isEmpty_rowPositions x (y + down) row]
        cases Screen.rowPositions x (y + down) row with
        | nil => rfl
        | cons position positions => rfl
      rw [List.zipIdx_cons, List.flatMap_cons, happend, ih, List.any_cons]
      simp

/-- Drawing a sprite does to the pixels what it does to those that the bytes
stand for. -/
theorem draw_eq (buffer : FrameBuffer) (x y : UInt8) (sprite : List UInt8)
    (hsprite : sprite.length ≤ UInt64.size / 2) :
    ∃ drawn, buffer.draw x y sprite = .ok drawn ∧
      (drawn.1.view, drawn.2) = buffer.view.draw x y sprite := by
  have hy : y.toNat < 256 := y.toNat_lt
  have hfits : y.toNat + (0 + sprite.length) ≤ UInt64.size := by
    unfold UInt64.size at hsprite ⊢
    omega
  obtain ⟨drawn, hdrawn, hview⟩ := drawRows_eq x y sprite hfits (buffer, false)
  refine ⟨drawn, hdrawn, ?_⟩
  rw [hview]
  show (Screen.spritePositions x.toNat y.toNat sprite).foldl flipMarked (buffer.view, false) = _
  have hdirty := Screen.dirty_flipAll buffer.view false
    (Screen.spritePositions x.toNat y.toNat sprite)
  have hempty : (Screen.spritePositions x.toNat y.toNat sprite).isEmpty = !sprite.any (· ≠ 0) :=
    isEmpty_spriteRows x.toNat y.toNat 0 sprite
  rw [foldl_flipMarked, Screen.draw, hempty, Bool.not_not]
  cases hflip : buffer.view.flipAll false (Screen.spritePositions x.toNat y.toNat sprite) with
  | mk screen collision =>
      rw [hflip] at hdirty
      have hscreen : screen.dirty = buffer.view.dirty := hdirty
      simp only [hscreen]

end Raw.FrameBuffer

end Chip8
