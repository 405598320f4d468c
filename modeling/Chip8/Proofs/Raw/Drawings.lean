import Chip8.Proofs.Raw.FrameBuffer

/-!
# Several sprites

What is on the screen after several sprites depends on how often each pixel was flipped,
and so not on the order of the sprites.  The same is true of whether any of them has put
a lit pixel out, although it depends on the order which of them does.  Sprites that are
all drawn a second time take themselves away again.
-/

namespace Chip8

/-- A sprite and where its top left corner is drawn.  Nothing is stored in more bytes
than half of what a size can count. -/
structure Sprite where
  x : UInt8
  y : UInt8
  rows : List UInt8
  length_lt : rows.length < UInt64.size / 2

/-- The pixels that a sprite flips. -/
def Sprite.positions (sprite : Sprite) : List Position :=
  Screen.spritePositions sprite.x.toNat sprite.y.toNat sprite.rows

/-- A row with a bit set flips pixels. -/
theorem Sprite.positions_ne_nil (sprite : Sprite) (hrows : ∃ row ∈ sprite.rows, row ≠ 0) :
    sprite.positions ≠ [] := by
  have hempty : sprite.positions.isEmpty = !sprite.rows.any (· ≠ 0) :=
    Raw.FrameBuffer.isEmpty_spriteRows sprite.x.toNat sprite.y.toNat 0 sprite.rows
  have hany : sprite.rows.any (· ≠ 0) = true := by simpa using hrows
  intro hnil
  rw [hany, hnil] at hempty
  simp at hempty

namespace Screen

/-- Draw sprites one after the other, and tell whether one of them has put a lit pixel
out. -/
def drawAll (screen : Screen) : List Sprite → Screen × Bool
  | [] => (screen, false)
  | sprite :: rest =>
      let (drawn, collision) := screen.draw sprite.x sprite.y sprite.rows
      let (last, later) := drawn.drawAll rest
      (last, collision || later)

/-! ## One list of flips -/

/-- What was found lit before stays found. -/
theorem flipAll_collision (screen : Screen) (collision : Bool) (positions : List Position) :
    screen.flipAll collision positions
      = ((screen.flipAll false positions).1, collision || (screen.flipAll false positions).2) := by
  induction positions generalizing screen collision with
  | nil => simp [flipAll]
  | cons position rest ih =>
      rw [flipAll, flipAll, ih (screen.flip position) (collision || screen.isLit position),
        ih (screen.flip position) (false || screen.isLit position), Bool.false_or, Bool.or_assoc]

theorem flipAll_append (screen : Screen) (collision : Bool) (first second : List Position) :
    screen.flipAll collision (first ++ second)
      = (screen.flipAll collision first).1.flipAll (screen.flipAll collision first).2 second := by
  induction first generalizing screen collision with
  | nil => rfl
  | cons position rest ih => exact ih (screen.flip position) (collision || screen.isLit position)

theorem draw_eq_flipAll (screen : Screen) (sprite : Sprite) :
    screen.draw sprite.x sprite.y sprite.rows
      = ({ (screen.flipAll false sprite.positions).1 with
            dirty := screen.dirty || sprite.rows.any (· ≠ 0) },
          (screen.flipAll false sprite.positions).2) := by
  rw [← screen.dirty_flipAll false sprite.positions]
  rfl

/-- Drawing sprites flips the pixels of all of them. -/
theorem drawAll_eq (screen : Screen) (sprites : List Sprite) :
    screen.drawAll sprites
      = ({ (screen.flipAll false (sprites.flatMap Sprite.positions)).1 with
            dirty := screen.dirty || sprites.any fun sprite => sprite.rows.any (· ≠ 0) },
          (screen.flipAll false (sprites.flatMap Sprite.positions)).2) := by
  induction sprites generalizing screen with
  | nil => simp [drawAll, flipAll]
  | cons sprite rest ih =>
      rw [List.flatMap_cons, flipAll_append, flipAll_collision _ (screen.flipAll _ _).2,
        List.any_cons, drawAll, draw_eq_flipAll]
      simp only [ih, flipAll_dirty, Bool.or_assoc]

/-! ## Order -/

/-- Screens are the same if the same pixels are lit on them, and the mark is the same. -/
theorem ext_isLit {first second : Screen}
    (hlit : ∀ position, first.isLit position = second.isLit position)
    (hdirty : first.dirty = second.dirty) : first = second := by
  have hpixels : first.pixels = second.pixels := by
    apply Vector.ext
    intro index hindex
    have hplace : (Position.wrap (index % 64) (index / 64)).index.val = index := by
      show 64 * (index / 64 % 32) + index % 64 % 64 = index
      omega
    have hpixel := hlit (Position.wrap (index % 64) (index / 64))
    simpa only [isLit, Fin.getElem_fin, hplace] using hpixel
  cases first
  cases second
  simp_all

/-- Pixels may be flipped in any order. -/
theorem flipAll_perm (screen : Screen) (collision : Bool) {first second : List Position}
    (hperm : first.Perm second) :
    screen.flipAll collision first = screen.flipAll collision second := by
  refine Prod.ext (ext_isLit ?_ ?_) ?_
  · intro position
    rw [isLit_flipAll_count, isLit_flipAll_count, hperm.count_eq]
  · rw [dirty_flipAll, dirty_flipAll]
  · rw [Bool.eq_iff_iff, collision_flipAll_count, collision_flipAll_count]
    simp only [hperm.count_eq]

/-- Sprites may be drawn in any order. -/
theorem drawAll_perm (screen : Screen) {sprites others : List Sprite}
    (hperm : sprites.Perm others) : screen.drawAll sprites = screen.drawAll others := by
  rw [drawAll_eq, drawAll_eq, screen.flipAll_perm false (hperm.flatMap_right _), hperm.any_eq]

/-! ## Twice -/

/-- Sprites that are drawn twice leave the pixels as they were. -/
theorem pixels_drawAll_twice (screen : Screen) (sprites : List Sprite) :
    ((screen.drawAll sprites).1.drawAll sprites).1.pixels = screen.pixels := by
  have htwice : ((screen.flipAll false (sprites.flatMap Sprite.positions)).1.flipAll false
      (sprites.flatMap Sprite.positions)).1 = screen := by
    refine ext_isLit ?_ ?_
    · intro position
      rw [isLit_flipAll_count, isLit_flipAll_count, Bool.xor_assoc, Bool.xor_self, Bool.xor_false]
    · rw [dirty_flipAll, dirty_flipAll]
  rw [drawAll_eq, drawAll_eq, flipAll_dirty]
  have hpixels := congrArg pixels htwice
  exact hpixels

/-- One of two draws of a sprite puts a pixel out that is lit, if it flips any. -/
theorem collision_drawAll_twice (screen : Screen) {sprite : Sprite}
    (hpositions : sprite.positions ≠ []) : (screen.drawAll [sprite, sprite]).2 = true := by
  obtain ⟨position, hposition⟩ := List.exists_mem_of_ne_nil _ hpositions
  have hcount := List.count_pos_iff.mpr hposition
  rw [drawAll_eq, collision_flipAll_count]
  refine .inr ⟨position, ?_⟩
  rw [List.flatMap_cons, List.flatMap_cons, List.flatMap_nil, List.append_nil, List.count_append]
  omega

end Screen

namespace Raw.FrameBuffer

/-- Screens in bytes are the same if the same pixels are. -/
theorem view_injective {first second : FrameBuffer} (hview : first.view = second.view) :
    first = second := by
  have hdirty : first.dirty = second.dirty := congrArg Screen.dirty hview
  have hbytes : first.bytes = second.bytes := by
    apply Vector.ext
    intro index hindex
    apply byte_ext
    intro bit hbit
    have hpixel := congrArg (fun screen : Screen => screen.pixels[8 * index + bit]) hview
    have hbyte : (8 * index + bit) / 8 = index := by omega
    have hplace : (8 * index + bit) % 8 = bit := by omega
    simpa only [view, Vector.getElem_ofFn, hbyte, hplace] using hpixel
  cases first
  cases second
  simp_all

/-- The bytes of a screen do not depend on its mark. -/
theorem bytes_eq_of_pixels {first second : FrameBuffer}
    (hpixels : first.view.pixels = second.view.pixels) : first.bytes = second.bytes := by
  have hview : view ⟨first.bytes, false⟩ = view ⟨second.bytes, false⟩ :=
    congrArg (fun pixels => (⟨pixels, false⟩ : Screen)) hpixels
  have hbuffer : (⟨first.bytes, false⟩ : FrameBuffer) = ⟨second.bytes, false⟩ :=
    view_injective hview
  exact (mk.inj hbuffer).1

/-- Draw sprites one after the other, and tell whether one of them has put a lit pixel
out. -/
def drawAll (buffer : FrameBuffer) : List Sprite → Checked (FrameBuffer × Bool)
  | [] => return (buffer, false)
  | sprite :: rest => do
      let (drawn, collision) ← buffer.draw sprite.x sprite.y sprite.rows
      let (last, later) ← drawn.drawAll rest
      return (last, collision || later)

theorem draw_sprite (buffer : FrameBuffer) (sprite : Sprite) :
    ∃ drawn, buffer.draw sprite.x sprite.y sprite.rows = .ok drawn ∧
      (drawn.1.view, drawn.2) = buffer.view.draw sprite.x sprite.y sprite.rows :=
  buffer.draw_eq sprite.x sprite.y sprite.rows sprite.length_lt.le

/-- Drawing sprites does to the pixels what it does to those that the bytes stand for. -/
theorem drawAll_view (buffer : FrameBuffer) (sprites : List Sprite) :
    ∃ drawn, buffer.drawAll sprites = .ok drawn ∧
      (drawn.1.view, drawn.2) = buffer.view.drawAll sprites := by
  induction sprites generalizing buffer with
  | nil => exact ⟨(buffer, false), rfl, rfl⟩
  | cons sprite rest ih =>
      obtain ⟨⟨drawn, collision⟩, hdraw, hview⟩ := buffer.draw_sprite sprite
      obtain ⟨⟨last, later⟩, hrest, hlast⟩ := ih drawn
      refine ⟨(last, collision || later), ?_, ?_⟩
      · simp only [drawAll, hdraw, ok_bind, hrest]
        rfl
      · simp only [Screen.drawAll, ← hview, ← hlast]

/-- Sprites may be drawn in any order: the bytes, the mark and whether any of them has put
a lit pixel out are the same.  Drawn a second time, they leave the bytes as they were.  Of
two draws of one sprite at one place, one puts a lit pixel out if the sprite has any, no
matter how tall it is. -/
theorem draws_commute_and_cancel (buffer : FrameBuffer) (sprites : List Sprite) :
    ∃ drawn collision, buffer.drawAll sprites = .ok (drawn, collision) ∧
      (∀ others, sprites.Perm others → buffer.drawAll others = .ok (drawn, collision)) ∧
      (∃ again later, drawn.drawAll sprites = .ok (again, later) ∧
        again.bytes = buffer.bytes) ∧
      ∀ sprite : Sprite, (∃ row ∈ sprite.rows, row ≠ 0) → ∃ first found second foundAgain,
        buffer.draw sprite.x sprite.y sprite.rows = .ok (first, found) ∧
          first.draw sprite.x sprite.y sprite.rows = .ok (second, foundAgain) ∧
          (found = true ∨ foundAgain = true) := by
  obtain ⟨⟨drawn, collision⟩, hdrawn, hview⟩ := buffer.drawAll_view sprites
  refine ⟨drawn, collision, hdrawn, ?_, ?_, ?_⟩
  · intro others hperm
    obtain ⟨⟨other, found⟩, hother, hotherView⟩ := buffer.drawAll_view others
    rw [← Screen.drawAll_perm _ hperm, ← hview] at hotherView
    obtain ⟨hbuffer, hfound⟩ := Prod.mk.inj hotherView
    have hsame : other = drawn := view_injective hbuffer
    have hboth : found = collision := hfound
    rw [hother, hsame, hboth]
  · obtain ⟨⟨again, later⟩, hagain, hagainView⟩ := drawn.drawAll_view sprites
    refine ⟨again, later, hagain, ?_⟩
    have hpixels := buffer.view.pixels_drawAll_twice sprites
    rw [← hview, ← hagainView] at hpixels
    -- bytes without a mark are the same if the pixels are
    have hunmarked : view ⟨again.bytes, false⟩ = view ⟨buffer.bytes, false⟩ :=
      congrArg (fun pixels => (⟨pixels, false⟩ : Screen)) hpixels
    have hsame : (⟨again.bytes, false⟩ : FrameBuffer) = ⟨buffer.bytes, false⟩ :=
      view_injective hunmarked
    exact (mk.inj hsame).1
  · rintro sprite ⟨row, hrow, hne⟩
    obtain ⟨⟨first, found⟩, hfirst, hfirstView⟩ := buffer.draw_sprite sprite
    obtain ⟨⟨second, foundAgain⟩, hsecond, hsecondView⟩ := first.draw_sprite sprite
    refine ⟨first, found, second, foundAgain, hfirst, hsecond, ?_⟩
    have hcollision :=
      buffer.view.collision_drawAll_twice (sprite.positions_ne_nil ⟨row, hrow, hne⟩)
    simp only [Screen.drawAll, ← hfirstView, ← hsecondView] at hcollision
    simpa using hcollision

end Raw.FrameBuffer

end Chip8
