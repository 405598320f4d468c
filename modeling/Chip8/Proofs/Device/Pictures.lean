import Chip8.Proofs.Device.Planes
import Chip8.Proofs.Raw.Drawings

/-!
# What the terminal shows

The screen keeps its pixels in bytes that the terminal takes apart again.  Both find the bit
of a pixel by the number that it has row by row, so the planes of a screen are its lit and
its unlit pixels, whatever was drawn on it.

A terminal paints the unlit points first and the lit ones over them.  As each point of a
picture has a cell for itself, the two planes fill the picture, and nothing is left of the
pictures before.
-/

namespace Chip8

/-! ## The planes of the screen -/

namespace Raw

/-- What is done to the screen: a sprite is drawn, or all of it is cleared. -/
inductive ScreenChange where
  | sprite (sprite : Sprite)
  | clear

namespace FrameBuffer

def change (buffer : FrameBuffer) : ScreenChange → Checked FrameBuffer
  | .sprite sprite => do
      let (drawn, _) ← buffer.draw sprite.x sprite.y sprite.rows
      return drawn
  | .clear => return buffer.clear

def changeAll (buffer : FrameBuffer) : List ScreenChange → Checked FrameBuffer
  | [] => return buffer
  | change :: rest => do
      let changed ← buffer.change change
      changed.changeAll rest

theorem exists_changeAll (buffer : FrameBuffer) (changes : List ScreenChange) :
    ∃ changed, buffer.changeAll changes = .ok changed := by
  induction changes generalizing buffer with
  | nil => exact ⟨buffer, rfl⟩
  | cons change rest ih =>
      cases change with
      | sprite sprite =>
          obtain ⟨⟨drawn, collision⟩, hdrawn, -⟩ := buffer.draw_sprite sprite
          obtain ⟨changed, hchanged⟩ := ih drawn
          refine ⟨changed, ?_⟩
          simp only [changeAll, change, hdrawn, ok_bind]
          exact hchanged
      | clear => exact ih buffer.clear

/-- A pixel of the screen is lit if the bit with its number is set. -/
theorem isLit_eq_isSet (buffer : FrameBuffer) {x y : Nat} (hx : x < 64) (hy : y < 32) :
    buffer.view.isLit (Position.wrap x y)
      = Raster.isSet buffer.bytes.toList ((⟨64, 32⟩ : Raster).number x y) := by
  have hnumber : (Position.wrap x y).index.val = (⟨64, 32⟩ : Raster).number x y := by
    show 64 * (y % 32) + x % 64 = 64 * y + x
    rw [Nat.mod_eq_of_lt hx, Nat.mod_eq_of_lt hy]
  have hbyte := byte_lt (Position.wrap x y)
  rw [isLit_view buffer _ hbyte, Raster.isSet, ← hnumber,
    List.getD_eq_getElem _ _ (by simpa using hbyte), Vector.getElem_toList]

/-- The planes of the screen are the lit and the unlit ones of its 2048 pixels. -/
theorem exists_planes (buffer : FrameBuffer) :
    ∃ isLit unlit lit, (∀ x y, buffer.pixel x y = .ok (isLit x y)) ∧
      (⟨64, 32⟩ : Raster).plane buffer.bytes.toList false = some unlit ∧
      (⟨64, 32⟩ : Raster).plane buffer.bytes.toList true = some lit ∧
      (⟨64, 32⟩ : Raster).Parts isLit unlit lit := by
  have hdata : (⟨64, 32⟩ : Raster).pixelCount ≤ 8 * buffer.bytes.toList.length := by
    rw [Vector.length_toList]
    decide
  obtain ⟨unlit, lit, hunlit, hlit, hparts⟩ := Raster.exists_parts hdata
    fun x hx y hy => buffer.isLit_eq_isSet hx hy
  exact ⟨_, unlit, lit, buffer.pixel_eq, hunlit, hlit, hparts⟩

end FrameBuffer

end Raw

/-- A picture for which the terminal has room, with the frame around it. -/
structure Raster.Showable (raster : Raster) : Prop where
  width_pos : 1 ≤ raster.width
  width_le : raster.width ≤ 198
  height_pos : 1 ≤ raster.height
  height_le : raster.height ≤ 98

namespace Raster.Showable

variable {raster : Raster}

theorem inside_eq (hsize : raster.Showable) : raster.inside = raster := by
  have hwidth := hsize.width_le
  have hheight := hsize.height_le
  have hcolumns : raster.width % UInt16.size = raster.width :=
    Nat.mod_eq_of_lt (by unfold UInt16.size; omega)
  have hrows : raster.height % UInt16.size = raster.height :=
    Nat.mod_eq_of_lt (by unfold UInt16.size; omega)
  rw [inside, hcolumns, hrows]

theorem fits (hsize : raster.Showable) : Terminal.fits raster = true := by
  obtain ⟨hwidth, hcolumns, hheight, hrows⟩ := hsize
  simp only [Terminal.fits, inside_eq ⟨hwidth, hcolumns, hheight, hrows⟩, Terminal.columns,
    Terminal.lines, Bool.and_eq_true, decide_eq_true_eq]
  omega

theorem byteCount?_eq (hsize : raster.Showable) :
    raster.byteCount? = some (raster.pixelCount / 8) := by
  have hpixels : raster.pixelCount ≤ 198 * 98 := Nat.mul_le_mul hsize.width_le hsize.height_le
  exact if_pos (by unfold UInt64.size; omega)

end Raster.Showable

namespace Terminal

open Raster (isSet numbersBelow mem_numbersBelow)

variable {raster : Raster}

/-! ## The cells of a picture -/

/-- Painting puts one thing into the cells of all points, and leaves the others. -/
theorem getElem?_paint (raster : Raster) (cell : Cell) {cells : Array Cell}
    (points : List CanvasPoint) {index : Nat} (hindex : index < cells.size) :
    (paint raster cell cells points)[index]?
      = if index ∈ points.map (cellIndex raster) then some cell else cells[index]? := by
  induction points generalizing cells with
  | nil => rfl
  | cons point rest ih =>
      have hsize : index < (cells.setIfInBounds (cellIndex raster point) cell).size := by
        rw [Array.size_setIfInBounds]
        exact hindex
      have hpaint : (paint raster cell cells (point :: rest))[index]?
          = (paint raster cell (cells.setIfInBounds (cellIndex raster point) cell) rest)[index]? :=
        rfl
      rw [hpaint, ih hsize, Array.getElem?_setIfInBounds]
      simp only [List.map_cons, List.mem_cons]
      by_cases hpoint : cellIndex raster point = index
      · subst hpoint
        simp [hindex]
      · simp [hpoint, Ne.symm hpoint]

theorem size_paint (raster : Raster) (cell : Cell) (cells : Array Cell)
    (points : List CanvasPoint) : (paint raster cell cells points).size = cells.size := by
  induction points generalizing cells with
  | nil => rfl
  | cons point rest ih => exact (ih _).trans (Array.size_setIfInBounds ..)

/-- Each pixel is shown in the cell that has its number. -/
theorem cellIndex_point (hinside : raster.inside = raster) (hwidth : 2 ≤ raster.width)
    (hheight : 2 ≤ raster.height) (index : Nat) :
    cellIndex raster (raster.point index) = index := by
  have hrow : (-(raster.point index).y).toNat = index / raster.width := by
    show (- -((index / raster.width : Nat) : Int)).toNat = index / raster.width
    rw [Int.neg_neg, Int.toNat_natCast]
  rw [cellIndex, hinside, hrow, spread_self _ hwidth, spread_self _ hheight]
  exact Nat.div_add_mod index raster.width

/-- The cells of the picture with these data. -/
def picture (raster : Raster) (data : List UInt8) : Array Cell :=
  cellsOf raster ((numbersBelow data false raster.pixelCount).map raster.point)
    ((numbersBelow data true raster.pixelCount).map raster.point)

/-- No cell of a picture is left blank, as each pixel is in one of the planes. -/
theorem getElem?_picture (hinside : raster.inside = raster) (hwidth : 2 ≤ raster.width)
    (hheight : 2 ≤ raster.height) (data : List UInt8) {index : Nat}
    (hindex : index < raster.pixelCount) :
    (picture raster data)[index]? = some (if isSet data index then .lit else .unlit) := by
  have hcells : ∀ value : Bool, ((numbersBelow data value raster.pixelCount).map raster.point).map
      (cellIndex raster) = numbersBelow data value raster.pixelCount := by
    intro value
    rw [List.map_map]
    exact List.map_id'' (cellIndex_point hinside hwidth hheight) _
  have hsize : index < (Array.replicate raster.inside.pixelCount Cell.blank).size := by
    rw [hinside, Array.size_replicate]
    exact hindex
  have hextent : ¬ (raster.width < 2 ∨ raster.height < 2) := by omega
  rw [picture, cellsOf, if_neg hextent, getElem?_paint _ _ _ (by rwa [size_paint]),
    getElem?_paint _ _ _ hsize, hcells, hcells]
  simp only [mem_numbersBelow, hindex, true_and]
  cases isSet data index <;> rfl

/-! ## The text -/

/-- The character that stands in a column of a line. -/
def characterAt (lines : List String) (column row : Nat) : Option Char :=
  lines[row]?.bind (·.toList[column]?)

/-- Inside the frame, the cells stand row by row. -/
theorem characterAt_text (hinside : raster.inside = raster) (cells : Array Cell) {x y : Nat}
    (hx : x < raster.width) (hy : y < raster.height) :
    characterAt (text ⟨raster, some cells⟩) (x + 1) (y + 1)
      = some (cells.getD (raster.number x y) .blank).character := by
  have hline : (text ⟨raster, some cells⟩)[y + 1]?
      = some (rowLine raster.width cells y ++ blanks (raster.width - raster.width)) := by
    simp [text, hinside, framed, hy, List.getElem?_append]
  rw [characterAt, hline]
  simp [rowLine, hx, List.getElem?_append, Raster.number]

/-! ## Pictures one after the other -/

/-- A picture is drawn if its bytes have room for all its pixels, and no more room. -/
theorem draw?_eq (terminal : Terminal) (hsize : terminal.raster.Showable) (data : List UInt8) :
    terminal.draw? data = if 8 * data.length = terminal.raster.pixelCount then
        some { terminal with cells := some (picture terminal.raster data) }
      else none := by
  rw [draw?]
  simp only [hsize.fits, hsize.byteCount?_eq, Option.some.injEq, true_and]
  by_cases hdata : 8 * data.length = terminal.raster.pixelCount
  · rw [if_pos (by omega), if_pos hdata, Raster.plane_eq _ hdata.ge, Raster.plane_eq _ hdata.ge]
    rfl
  · rw [if_neg hdata]
    split
    · rw [Raster.plane_eq_none _ (by omega)]
    · rfl

theorem draw?_ne_none (terminal : Terminal) (hsize : terminal.raster.Showable)
    (data : List UInt8) :
    terminal.draw? data ≠ none ↔ 8 * data.length = terminal.raster.pixelCount := by
  rw [draw?_eq terminal hsize]
  split
  · next hdata => simp [hdata]
  · next hdata => simp [hdata]

/-- Draw pictures one after the other. -/
def drawAll? (terminal : Terminal) : List (List UInt8) → Option Terminal
  | [] => some terminal
  | frame :: rest => do
      let drawn ← terminal.draw? frame
      drawn.drawAll? rest

/-- Whether a picture is drawn does not depend on those before, and the last one is shown. -/
theorem drawAll?_concat (terminal : Terminal) (hsize : terminal.raster.Showable)
    (frames : List (List UInt8)) (last : List UInt8)
    (hframes : ∀ frame ∈ frames ++ [last], terminal.draw? frame ≠ none) :
    terminal.drawAll? (frames ++ [last])
      = some { terminal with cells := some (picture terminal.raster last) } := by
  simp only [draw?_ne_none terminal hsize] at hframes
  induction frames generalizing terminal with
  | nil =>
      have hlast := hframes last List.mem_cons_self
      rw [List.nil_append, drawAll?, draw?_eq terminal hsize, if_pos hlast]
      rfl
  | cons frame rest ih =>
      have hframe := hframes frame List.mem_cons_self
      rw [List.cons_append, drawAll?, draw?_eq terminal hsize, if_pos hframe]
      exact ih { terminal with cells := some (picture terminal.raster frame) } hsize
        fun other hother => hframes other (List.mem_cons_of_mem _ hother)

/-- What a terminal does with any data.  A picture has eight pixels to a byte, and is refused
unless that comes out even.  Otherwise its planes part the pixels by their bits, and after any
such pictures the last one stands inside the frame. -/
structure ShowsPictures (terminal : Terminal) : Prop where
  refuses : ∀ data, terminal.draw? data = none ↔
    data.length ≠ terminal.raster.pixelCount / 8 ∨ ¬ 8 ∣ terminal.raster.pixelCount
  planes : ∀ data, terminal.draw? data ≠ none → ∃ unlit lit,
    terminal.raster.plane data false = some unlit ∧
      terminal.raster.plane data true = some lit ∧
      terminal.raster.Parts (fun x y => isSet data (terminal.raster.width * y + x)) unlit lit
  shows : 2 ≤ terminal.raster.width → 2 ≤ terminal.raster.height → ∀ frames last,
    (∀ frame ∈ frames ++ [last], terminal.draw? frame ≠ none) →
    ∃ shown, terminal.drawAll? (frames ++ [last]) = some shown ∧
      ∀ x < terminal.raster.width, ∀ y < terminal.raster.height,
        characterAt shown.text (x + 1) (y + 1)
          = some (if isSet last (terminal.raster.width * y + x) then '#' else '.')

theorem showsPictures (terminal : Terminal) (hsize : terminal.raster.Showable) :
    terminal.ShowsPictures where
  refuses := by
    intro data
    have heven : 8 * data.length = terminal.raster.pixelCount ↔
        ¬ (data.length ≠ terminal.raster.pixelCount / 8 ∨ ¬ 8 ∣ terminal.raster.pixelCount) := by
      omega
    exact not_iff_not.mp ((draw?_ne_none terminal hsize data).trans heven)
  planes := by
    intro data hdrawn
    have hdata := (draw?_ne_none terminal hsize data).mp hdrawn
    exact Raster.exists_parts hdata.ge fun _ _ _ _ => rfl
  shows := by
    intro hwidth hheight frames last hframes
    refine ⟨_, drawAll?_concat terminal hsize frames last hframes, ?_⟩
    intro x hx y hy
    have hcell := getElem?_picture hsize.inside_eq hwidth hheight last (Raster.number_lt hx hy)
    rw [characterAt_text hsize.inside_eq _ hx hy, Array.getD_eq_getD_getElem?, hcell,
      Option.getD_some, Raster.number]
    cases isSet last (terminal.raster.width * y + x) <;> rfl

/-- The bits 0 and 5 of the last of two pictures are set. -/
example : ((⟨⟨4, 2⟩, none⟩ : Terminal).drawAll? [[0xFF], [0x21]]).map text
    = some ["┌CHIP┐", "│#...│", "│.#..│", "└────┘"] := by
  decide

end Terminal

/-- The terminal shows what was drawn.  After any sprites and clearings, the planes of the
screen are its lit and its unlit pixels, each once.  A terminal for pictures of any size for
which it has room refuses those that have too few bytes for their pixels or too many, and
otherwise lists and shows each pixel as its bit in the last picture is. -/
theorem terminal_shows_drawing :
    (∀ changes : List Raw.ScreenChange, ∃ buffer isLit unlit lit,
      Raw.FrameBuffer.blank.changeAll changes = .ok buffer ∧
        (∀ x y, buffer.pixel x y = .ok (isLit x y)) ∧
        (⟨64, 32⟩ : Raster).plane buffer.bytes.toList false = some unlit ∧
        (⟨64, 32⟩ : Raster).plane buffer.bytes.toList true = some lit ∧
        (⟨64, 32⟩ : Raster).Parts isLit unlit lit) ∧
    ∀ terminal : Terminal, 1 ≤ terminal.raster.width → terminal.raster.width ≤ 198 →
      1 ≤ terminal.raster.height → terminal.raster.height ≤ 98 → terminal.ShowsPictures := by
  constructor
  · intro changes
    obtain ⟨buffer, hbuffer⟩ := Raw.FrameBuffer.blank.exists_changeAll changes
    obtain ⟨isLit, unlit, lit, hplanes⟩ := buffer.exists_planes
    exact ⟨buffer, isLit, unlit, lit, hbuffer, hplanes⟩
  · intro terminal hwidth hcolumns hheight hrows
    exact terminal.showsPictures ⟨hwidth, hcolumns, hheight, hrows⟩

end Chip8
