import Mathlib.Data.List.GetD
import Mathlib.Data.List.Nodup
import Chip8.Device.Terminal

/-!
# The two planes of a picture

The planes are read from the last pixel down to the first, with column and row worked out
from the number of the pixel.  A pixel has its bit where this number says, as on a screen
that is drawn on pixel by pixel, so the planes part the pixels into the lit and the unlit
ones.  There are no planes if the bytes are too few for the pixels.  That is the case too if
they are as many as the picture should have, but some pixels are left over for which eight
pixels to a byte leave no room.
-/

namespace Chip8.Raster

variable {raster : Raster} {data : List UInt8}

/-! ## Numbers of pixels -/

/-- The number of a pixel, counted row by row. -/
def number (raster : Raster) (x y : Nat) : Nat :=
  raster.width * y + x

theorem number_lt {x y : Nat} (hx : x < raster.width) (hy : y < raster.height) :
    raster.number x y < raster.pixelCount :=
  calc raster.width * y + x
    _ < raster.width * y + raster.width := by omega
    _ = raster.width * (y + 1) := (Nat.mul_succ ..).symm
    _ ≤ raster.width * raster.height := Nat.mul_le_mul_left _ hy

theorem point_number {x : Nat} (y : Nat) (hx : x < raster.width) :
    raster.point (raster.number x y) = ⟨x, -(y : Int)⟩ := by
  have hcolumn : (raster.width * y + x) % raster.width = x := by
    rw [Nat.mul_add_mod, Nat.mod_eq_of_lt hx]
  have hrow : (raster.width * y + x) / raster.width = y := by
    rw [Nat.mul_add_div (by omega), Nat.div_eq_of_lt hx, Nat.add_zero]
  rw [point, number, hcolumn, hrow]

/-- Each number below that of the pixels is the number of one. -/
theorem exists_number {index : Nat} (hindex : index < raster.pixelCount) :
    ∃ x < raster.width, ∃ y < raster.height, raster.number x y = index := by
  have hwidth : 0 < raster.width := by
    by_contra hzero
    have hnone : raster.width = 0 := by omega
    rw [pixelCount, hnone, Nat.zero_mul] at hindex
    omega
  exact ⟨index % raster.width, Nat.mod_lt _ hwidth, index / raster.width,
    Nat.div_lt_of_lt_mul hindex, Nat.div_add_mod ..⟩

theorem point_injective (raster : Raster) : Function.Injective raster.point := by
  intro first second hpoint
  obtain ⟨hcolumn, hrow⟩ := (CanvasPoint.mk.injEq ..).mp hpoint
  have hquotient : first / raster.width = second / raster.width := by omega
  rw [← Nat.div_add_mod first raster.width, hquotient, hcolumn, Nat.div_add_mod]

/-! ## Bits of pixels -/

/-- Whether the bit of pixel number `index` is set.  Beyond the data none is. -/
def isSet (data : List UInt8) (index : Nat) : Bool :=
  (data.getD (index / 8) 0).toNat.testBit (index % 8)

theorem bit?_eq (data : List UInt8) (index : Nat) :
    bit? data index = if index < 8 * data.length then some (isSet data index) else none := by
  rw [bit?, isSet]
  split
  · next hindex =>
    have hbyte : index / 8 < data.length := by omega
    rw [List.getElem?_eq_getElem hbyte, List.getD_eq_getElem _ _ hbyte, Option.map_some]
  · next hindex =>
    rw [List.getElem?_eq_none (by omega), Option.map_none]

/-- The numbers below `count` whose bit is `value`, the last one first. -/
def numbersBelow (data : List UInt8) (value : Bool) (count : Nat) : List Nat :=
  (List.range count).reverse.filter fun index => isSet data index == value

theorem numbersBelow_succ (data : List UInt8) (value : Bool) (count : Nat) :
    numbersBelow data value (count + 1)
      = if isSet data count = value then count :: numbersBelow data value count
        else numbersBelow data value count := by
  rw [numbersBelow, List.range_succ, List.reverse_append, List.reverse_singleton,
    List.singleton_append, List.filter_cons]
  simp only [beq_iff_eq]
  rfl

theorem mem_numbersBelow {value : Bool} {count index : Nat} :
    index ∈ numbersBelow data value count ↔ index < count ∧ isSet data index = value := by
  simp [numbersBelow]

/-- Each number has one of the two bits. -/
theorem numbersBelow_perm (data : List UInt8) (count : Nat) :
    (numbersBelow data false count ++ numbersBelow data true count).Perm (List.range count) := by
  have hset : ∀ index, (!(isSet data index == false)) = (isSet data index == true) := by
    intro index
    cases isSet data index <;> rfl
  have hparts := List.filter_append_perm (fun index => isSet data index == false)
    (List.range count).reverse
  simp only [hset] at hparts
  exact hparts.trans (List.reverse_perm _)

/-! ## Planes -/

/-- A plane needs the bits of all its pixels, and has the points of those that are set as it
says. -/
theorem planeBelow_eq (raster : Raster) (data : List UInt8) (value : Bool) (count : Nat) :
    raster.planeBelow data value count
      = if count ≤ 8 * data.length then
          some ((numbersBelow data value count).map raster.point)
        else none := by
  induction count with
  | zero => rfl
  | succ count ih =>
      rw [planeBelow, ih, bit?_eq]
      by_cases hcount : count + 1 ≤ 8 * data.length
      · have hbefore : count ≤ 8 * data.length := by omega
        rw [if_pos hcount, if_pos hbefore, if_pos (Nat.lt_of_succ_le hcount), numbersBelow_succ]
        by_cases hvalue : isSet data count = value
        · simp only [if_pos hvalue, List.map_cons]
        · simp only [if_neg hvalue]
      · rw [if_neg hcount, if_neg (fun hlt => hcount (Nat.succ_le_of_lt hlt))]

theorem plane_eq (value : Bool) (hdata : raster.pixelCount ≤ 8 * data.length) :
    raster.plane data value
      = some ((numbersBelow data value raster.pixelCount).map raster.point) := by
  rw [plane, planeBelow_eq, if_pos hdata]

theorem plane_eq_none (value : Bool) (hdata : 8 * data.length < raster.pixelCount) :
    raster.plane data value = none := by
  rw [plane, planeBelow_eq, if_neg (Nat.not_le.mpr hdata)]

/-- Nine pixels do not fit into the one byte that a picture of this size has. -/
example : (⟨9, 1⟩ : Raster).byteCount? = some 1 ∧ (⟨9, 1⟩ : Raster).plane [0xFF] true = none := by
  decide

/-- Of the points of all pixels, each once, `lit` has those of the lit pixels and `unlit` the
others. -/
structure Parts (raster : Raster) (isLit : Nat → Nat → Bool) (unlit lit : List CanvasPoint) :
    Prop where
  nodup : (unlit ++ lit).Nodup
  length : (unlit ++ lit).length = raster.pixelCount
  mem_lit : ∀ point, point ∈ lit ↔ ∃ x < raster.width, ∃ y < raster.height,
    point = ⟨x, -(y : Int)⟩ ∧ isLit x y = true
  mem_unlit : ∀ point, point ∈ unlit ↔ ∃ x < raster.width, ∃ y < raster.height,
    point = ⟨x, -(y : Int)⟩ ∧ isLit x y = false

/-- The points of a plane, by columns and rows. -/
theorem mem_plane {isLit : Nat → Nat → Bool} (value : Bool)
    (hlit : ∀ x < raster.width, ∀ y < raster.height, isLit x y = isSet data (raster.number x y))
    (point : CanvasPoint) :
    point ∈ (numbersBelow data value raster.pixelCount).map raster.point ↔
      ∃ x < raster.width, ∃ y < raster.height, point = ⟨x, -(y : Int)⟩ ∧ isLit x y = value := by
  rw [List.mem_map]
  constructor
  · rintro ⟨index, hindex, rfl⟩
    obtain ⟨hlt, hvalue⟩ := mem_numbersBelow.mp hindex
    obtain ⟨x, hx, y, hy, rfl⟩ := exists_number hlt
    exact ⟨x, hx, y, hy, point_number y hx, (hlit x hx y hy).trans hvalue⟩
  · rintro ⟨x, hx, y, hy, rfl, hvalue⟩
    rw [hlit x hx y hy] at hvalue
    exact ⟨raster.number x y, mem_numbersBelow.mpr ⟨number_lt hx hy, hvalue⟩, point_number y hx⟩

/-- The planes of data that reach far enough part the pixels by their bits. -/
theorem exists_parts {isLit : Nat → Nat → Bool} (hdata : raster.pixelCount ≤ 8 * data.length)
    (hlit : ∀ x < raster.width, ∀ y < raster.height,
      isLit x y = isSet data (raster.number x y)) :
    ∃ unlit lit, raster.plane data false = some unlit ∧ raster.plane data true = some lit ∧
      raster.Parts isLit unlit lit := by
  have hperm := (numbersBelow_perm data raster.pixelCount).map raster.point
  rw [List.map_append] at hperm
  refine ⟨_, _, plane_eq false hdata, plane_eq true hdata, ?_, ?_, mem_plane true hlit,
    mem_plane false hlit⟩
  · exact hperm.nodup_iff.mpr (List.nodup_range.map raster.point_injective)
  · rw [hperm.length_eq, List.length_map, List.length_range]

end Chip8.Raster
