import Chip8.Proofs.Raw.Drawings
import Chip8.Proofs.Raw.Events

/-!
# How often a sprite hits a pixel

A sprite that is taller than the screen comes round to rows that it has drawn already, so
it may hit a pixel several times.  What it leaves behind is then a matter of counting: a
pixel changes if it is hit an odd number of times, and a lit pixel goes out on the way if
it was lit and is hit at all, or is hit more than once.  No more than 32 rows hit each
pixel at most once, and then the pixels that go out are those that are unlit at the end.
-/

namespace Chip8

/-- The bit of a sprite that is so far down and so far across from its corner is set, and
falls on a pixel. -/
def Sprite.HitsAt (sprite : Sprite) (column row : Nat) (place : Nat × Nat) : Prop :=
  (sprite.rows.getD place.1 0).toNat.testBit (7 - place.2) = true ∧
    (sprite.x.toNat + place.2) % 64 = column ∧ (sprite.y.toNat + place.1) % 32 = row

instance (sprite : Sprite) (column row : Nat) : DecidablePred (sprite.HitsAt column row) :=
  fun _ => inferInstanceAs (Decidable (_ ∧ _ ∧ _))

/-- How many bits of a sprite fall on a pixel. -/
def Sprite.hits (sprite : Sprite) (column row : Nat) : Nat :=
  ((List.range sprite.rows.length).product (List.range 8)).countP
    fun place => sprite.HitsAt column row place

namespace Screen

/-- The pixels of a sprite, bit by bit. -/
theorem spritePositions_eq_filterMap (x y : Nat) (rows : List UInt8) :
    spritePositions x y rows = ((List.range rows.length).product (List.range 8)).filterMap
      fun place => if (rows.getD place.1 0).toNat.testBit (7 - place.2) = true then
        some (Position.wrap (x + place.2) (y + place.1)) else none := by
  have hrows : rows.zipIdx = (List.range rows.length).map fun down => (rows.getD down 0, down) := by
    apply List.ext_getElem
    · simp
    · intro down hdown hother
      simp at hdown
      simp [hdown]
  rw [spritePositions, hrows, List.flatMap_map, List.product, List.filterMap_flatMap]
  simp only [List.filterMap_map]
  rfl

theorem wrap_eq_iff {x y : Nat} {position : Position} : Position.wrap x y = position ↔
    x % 64 = position.column.val ∧ y % 32 = position.row.val := by
  constructor
  · rintro rfl
    exact ⟨rfl, rfl⟩
  · rintro ⟨hcolumn, hrow⟩
    cases position
    exact (Position.mk.injEq ..).mpr ⟨Fin.ext hcolumn, Fin.ext hrow⟩

/-- A sprite flips a pixel as often as it hits it. -/
theorem count_positions (sprite : Sprite) (position : Position) :
    sprite.positions.count position = sprite.hits position.column.val position.row.val := by
  rw [Sprite.positions, spritePositions_eq_filterMap, List.count_filterMap, Sprite.hits]
  apply List.countP_congr
  intro place _
  rw [beq_iff_eq, decide_eq_true_iff, Sprite.HitsAt, Option.ite_none_right_eq_some,
    Option.some.injEq, wrap_eq_iff]

/-- A sprite no taller than the screen hits no pixel twice. -/
theorem hits_le_one {sprite : Sprite} (hrows : sprite.rows.length ≤ 32) (position : Position) :
    sprite.hits position.column.val position.row.val ≤ 1 := by
  rw [← count_positions]
  exact List.nodup_iff_count_le_one.mp (nodup_spritePositions _ _ hrows) position

theorem isLit_draw_hits (screen : Screen) (sprite : Sprite) (position : Position) :
    (screen.draw sprite.x sprite.y sprite.rows).1.isLit position
      = (screen.isLit position
          ^^ decide (sprite.hits position.column.val position.row.val % 2 = 1)) := by
  rw [draw_eq_flipAll, ← count_positions]
  exact isLit_flipAll_count screen false sprite.positions position

/-- The last of 33 rows comes round to the first one. -/
example : (⟨0, 0, List.replicate 33 0x80, by decide⟩ : Sprite).hits 0 0 = 2 := by
  decide +kernel

/-- Lit pixels go out where one is hit, and where any pixel is hit a second time. -/
theorem collision_draw_hits (screen : Screen) (sprite : Sprite) :
    (screen.draw sprite.x sprite.y sprite.rows).2 = true ↔ ∃ position : Position,
      (screen.isLit position = true ∧ 1 ≤ sprite.hits position.column.val position.row.val) ∨
        2 ≤ sprite.hits position.column.val position.row.val := by
  rw [draw_eq_flipAll, collision_flipAll_count]
  simp only [Bool.false_eq_true, false_or, count_positions]
  refine exists_congr fun position => ?_
  cases screen.isLit position with
  | false => simp
  | true =>
      simp only [Bool.toNat_true, true_and]
      omega

/-- The pixels are those of all columns and rows. -/
theorem exists_position {holds : Nat → Nat → Prop} :
    (∃ column < 64, ∃ row < 32, holds column row) ↔
      ∃ position : Position, holds position.column.val position.row.val := by
  constructor
  · rintro ⟨column, hcolumn, row, hrow, hholds⟩
    exact ⟨⟨⟨column, hcolumn⟩, ⟨row, hrow⟩⟩, hholds⟩
  · rintro ⟨position, hholds⟩
    exact ⟨_, position.column.isLt, _, position.row.isLt, hholds⟩

end Screen

namespace Raw.FrameBuffer

variable {buffer drawn : FrameBuffer} {collision : Bool} {sprite : Sprite}

/-- What drawing a sprite leaves behind, by how often each pixel is hit. -/
structure DrawsByHits (buffer : FrameBuffer) (sprite : Sprite) (drawn : FrameBuffer)
    (collision : Bool) : Prop where
  pixels : ∀ column < 64, ∀ row < 32, ∃ lit, buffer.pixel column row = .ok lit ∧
    drawn.pixel column row = .ok (lit ^^ decide (sprite.hits column row % 2 = 1))
  collision : collision = true ↔ ∃ column < 64, ∃ row < 32,
    (buffer.pixel column row = .ok true ∧ 1 ≤ sprite.hits column row) ∨
      2 ≤ sprite.hits column row
  dirty : drawn.dirty = (buffer.dirty || sprite.rows.any (· ≠ 0))

/-- Some pixel is lit before and unlit after. -/
def PutsOut (buffer drawn : FrameBuffer) : Prop :=
  ∃ column < 64, ∃ row < 32, buffer.pixel column row = .ok true ∧
    drawn.pixel column row = .ok false

theorem pixel_position (buffer : FrameBuffer) (position : Position) :
    buffer.pixel position.column.val position.row.val
      = .ok (buffer.view.isLit position) := by
  rw [pixel_eq, Screen.wrap_eq_iff.mpr ⟨Nat.mod_eq_of_lt position.column.isLt,
    Nat.mod_eq_of_lt position.row.isLt⟩]

/-! ## One sprite -/

theorem drawsByHits (hview : (drawn.view, collision)
      = buffer.view.draw sprite.x sprite.y sprite.rows) :
    buffer.DrawsByHits sprite drawn collision := by
  have hdrawn : drawn.view = (buffer.view.draw sprite.x sprite.y sprite.rows).1 := by
    rw [← hview]
  have hcollision : collision = (buffer.view.draw sprite.x sprite.y sprite.rows).2 := by
    rw [← hview]
  refine ⟨?_, ?_, ?_⟩
  · intro column hcolumn row hrow
    have hlit := buffer.view.isLit_draw_hits sprite ⟨⟨column, hcolumn⟩, ⟨row, hrow⟩⟩
    rw [← hdrawn] at hlit
    refine ⟨_, buffer.pixel_position ⟨⟨column, hcolumn⟩, ⟨row, hrow⟩⟩, ?_⟩
    rw [← hlit]
    exact drawn.pixel_position ⟨⟨column, hcolumn⟩, ⟨row, hrow⟩⟩
  · rw [hcollision, Screen.collision_draw_hits, Screen.exists_position]
    simp only [pixel_position, Except.ok.injEq]
  · rw [Screen.draw_eq_flipAll] at hdrawn
    exact congrArg Screen.dirty hdrawn

/-- If no pixel is hit twice, a pixel that goes out on the way stays out. -/
theorem DrawsByHits.collision_iff_putsOut (hdraws : buffer.DrawsByHits sprite drawn collision)
    (hrows : sprite.rows.length ≤ 32) : collision = true ↔ buffer.PutsOut drawn := by
  have hpixel : ∀ column < 64, ∀ row < 32,
      ((buffer.pixel column row = .ok true ∧ 1 ≤ sprite.hits column row) ∨
        2 ≤ sprite.hits column row) ↔
      buffer.pixel column row = .ok true ∧ drawn.pixel column row = .ok false := by
    intro column hcolumn row hrow
    obtain ⟨lit, hbefore, hafter⟩ := hdraws.pixels column hcolumn row hrow
    have honce : sprite.hits column row ≤ 1 :=
      Screen.hits_le_one hrows ⟨⟨column, hcolumn⟩, ⟨row, hrow⟩⟩
    rw [hbefore, hafter]
    cases lit with
    | false =>
        simp only [Except.ok.injEq, Bool.false_eq_true, false_and, false_or, iff_false]
        omega
    | true =>
        simp only [true_and, Except.ok.injEq, Bool.true_xor, Bool.not_eq_false',
          decide_eq_true_eq]
        omega
  rw [hdraws.collision]
  constructor
  · rintro ⟨column, hcolumn, row, hrow, hhit⟩
    exact ⟨column, hcolumn, row, hrow, (hpixel column hcolumn row hrow).mp hhit⟩
  · rintro ⟨column, hcolumn, row, hrow, hout⟩
    exact ⟨column, hcolumn, row, hrow, (hpixel column hcolumn row hrow).mpr hout⟩

/-! ## The instruction that draws -/

/-- `DXYN` draws no more than 15 rows, so VF tells whether a lit pixel is unlit
afterwards. -/
theorem flag_of_draw {machine : Machine} (hfree : machine.keys.isWaiting = false)
    (hlead : machine.view.word.toNat / 0x1000 = 0xD) :
    ∃ next, machine.step = .ok (.ok (), next) ∧
      (next.registers.get Register.vF = 1 ∧ machine.display.PutsOut next.display ∨
        next.registers.get Register.vF = 0 ∧ ¬ machine.display.PutsOut next.display) := by
  have hdecode := Instruction.decode?_draw hlead
  generalize lastDigit (machine.view.word.toNat / 0x100) = x at hdecode
  generalize lastDigit (machine.view.word.toNat / 0x10) = y at hdecode
  generalize lastDigit machine.view.word.toNat = height at hdecode
  obtain ⟨display, collision, hdraws, hview⟩ := machine.drawSprite_eq x y height
  have hlength : (machine.view.memory.readBlock machine.view.index height.val).length
      = height.val := Memory.length_readBlock ..
  have hfits : height.val < UInt64.size / 2 := by
    unfold UInt64.size
    omega
  have hrows : (machine.view.memory.readBlock machine.view.index height.val).length ≤ 32 := by
    omega
  let sprite : Sprite := ⟨machine.view.register x, machine.view.register y,
    machine.view.memory.readBlock machine.view.index height.val, hlength.trans_lt hfits⟩
  have hhits : machine.display.DrawsByHits sprite display collision := drawsByHits hview
  have hputs := hhits.collision_iff_putsOut hrows
  refine ⟨_, Machine.step_of_execute hfree hdecode hdraws, ?_⟩
  have hflag : (Chip8.Machine.setRegister (Machine.view { machine with display := display })
      .vF (if collision then 1 else 0)).register .vF = if collision then 1 else 0 := by
    rw [Chip8.Machine.register_setRegister, if_pos rfl]
  cases collision with
  | true => exact .inl ⟨hflag, hputs.mp rfl⟩
  | false => exact .inr ⟨hflag, fun hout => absurd (hputs.mpr hout) Bool.false_ne_true⟩

/-- Drawing a sprite of any height changes the pixels that it hits an odd number of times,
puts a lit pixel out where it hits one or hits any pixel twice, and leaves a mark if it has
any bit.  Up to 32 rows, and so `DXYN`, put a lit pixel out if and only if one is unlit
afterwards. -/
theorem draws_by_hits (buffer : FrameBuffer) (sprite : Sprite) :
    ∃ drawn collision, buffer.draw sprite.x sprite.y sprite.rows = .ok (drawn, collision) ∧
      buffer.DrawsByHits sprite drawn collision ∧
      (sprite.rows.length ≤ 32 → (collision = true ↔ buffer.PutsOut drawn)) ∧
      ∀ (machine : Machine) (word : UInt16), machine.display = buffer →
        machine.keys.isWaiting = false → machine.word = .ok word → word.toNat / 0x1000 = 0xD →
        ∃ next, machine.step = .ok (.ok (), next) ∧
          (next.registers.get Register.vF = 1 ∧ buffer.PutsOut next.display ∨
            next.registers.get Register.vF = 0 ∧ ¬ buffer.PutsOut next.display) := by
  obtain ⟨⟨drawn, collision⟩, hdrawn, hview⟩ := buffer.draw_sprite sprite
  have hdraws := drawsByHits hview
  refine ⟨drawn, collision, hdrawn, hdraws, hdraws.collision_iff_putsOut, ?_⟩
  rintro machine word rfl hfree hword hlead
  have hview : machine.view.word = word := Machine.view_word hword
  exact flag_of_draw hfree (hview ▸ hlead)

end Raw.FrameBuffer

end Chip8
