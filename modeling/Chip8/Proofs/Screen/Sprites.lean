import Mathlib.Data.List.Nodup
import Mathlib.Data.List.GetD
import Chip8.Screen

/-!
# The pixels of a sprite

A sprite that is not taller than the screen flips each pixel at most once, so
drawing it is one exclusive or with the set of its pixels, and the pixels that
were lit before are the ones that go out.  None of this depends on whether the
screen is marked as changed.
-/

namespace Chip8.Screen

/-! ## The mark -/

/-- What is lit and what is flipped does not depend on the mark, which stays. -/
theorem flipAll_dirty (screen : Screen) (collision dirty : Bool) (positions : List Position) :
    flipAll { screen with dirty := dirty } collision positions
      = ({ (screen.flipAll collision positions).1 with dirty := dirty },
          (screen.flipAll collision positions).2) := by
  induction positions generalizing screen collision with
  | nil => rfl
  | cons position rest ih => exact ih (screen.flip position) (collision || screen.isLit position)

@[simp] theorem dirty_flipAll (screen : Screen) (collision : Bool) (positions : List Position) :
    (screen.flipAll collision positions).1.dirty = screen.dirty := by
  have hdirty := flipAll_dirty screen collision screen.dirty positions
  exact congrArg (fun drawing => drawing.1.dirty) hdirty

/-! ## Flipping pixels

What counts is how often each pixel is flipped, not when. -/

/-- A pixel that is flipped an odd number of times changes. -/
theorem isLit_flipAll_count (screen : Screen) (collision : Bool) (positions : List Position)
    (position : Position) :
    (screen.flipAll collision positions).1.isLit position
      = (screen.isLit position ^^ decide (positions.count position % 2 = 1)) := by
  induction positions generalizing screen collision with
  | nil => simp [flipAll]
  | cons first rest ih =>
      rw [flipAll, ih (screen.flip first)]
      by_cases hsame : first = position
      · subst hsame
        have hparity : decide ((rest.count first + 1) % 2 = 1)
            = !decide (rest.count first % 2 = 1) := by
          rw [← decide_not, decide_eq_decide]
          omega
        rw [isLit_flip_self, List.count_cons_self, hparity, Bool.not_xor, Bool.xor_not]
      · rw [isLit_flip_of_ne screen hsame, List.count_cons_of_ne hsame]

/-- One of the pixels is found lit if it is flipped twice, or was lit and is flipped. -/
theorem collision_flipAll_count (screen : Screen) (collision : Bool)
    (positions : List Position) :
    (screen.flipAll collision positions).2 = true ↔ collision = true ∨
      ∃ position, 2 ≤ positions.count position + (screen.isLit position).toNat := by
  induction positions generalizing screen collision with
  | nil =>
      have hnone : ∀ position, ¬ 2 ≤ (screen.isLit position).toNat := by
        intro position
        exact Nat.not_le.mpr (Nat.lt_succ_of_le (Bool.toNat_le _))
      simp [flipAll, hnone]
  | cons first rest ih =>
      rw [flipAll, ih (screen.flip first)]
      by_cases hlit : screen.isLit first = true
      · have hfirst : 2 ≤ (first :: rest).count first + (screen.isLit first).toNat := by
          rw [List.count_cons_self, hlit, Bool.toNat_true]
          omega
        simp only [hlit, Bool.or_true, true_or, true_iff]
        exact .inr ⟨first, hfirst⟩
      · -- the first pixel is lit by its flip, which leaves one flip less to come
        have hsame : ∀ position, rest.count position + ((screen.flip first).isLit position).toNat
            = (first :: rest).count position + (screen.isLit position).toNat := by
          intro position
          by_cases hposition : first = position
          · subst hposition
            rw [isLit_flip_self, List.count_cons_self, eq_false_of_ne_true hlit, Bool.not_false,
              Bool.toNat_true, Bool.toNat_false]
          · rw [isLit_flip_of_ne screen hposition, List.count_cons_of_ne hposition]
        simp only [hsame, eq_false_of_ne_true hlit, Bool.or_false]

/-- Flipping different pixels flips those among them. -/
theorem isLit_flipAll (screen : Screen) (collision : Bool) {positions : List Position}
    (hnodup : positions.Nodup) (position : Position) :
    (screen.flipAll collision positions).1.isLit position
      = (screen.isLit position ^^ decide (position ∈ positions)) := by
  rw [isLit_flipAll_count]
  by_cases hmem : position ∈ positions
  · rw [List.count_eq_one_of_mem hnodup hmem]
    simp [hmem]
  · rw [List.count_eq_zero_of_not_mem hmem]
    simp [hmem]

/-- If the pixels are different, one is found lit if it was lit at the start. -/
theorem collision_flipAll (screen : Screen) (collision : Bool) {positions : List Position}
    (hnodup : positions.Nodup) :
    (screen.flipAll collision positions).2 = (collision || positions.any screen.isLit) := by
  have hlit : ∀ position, 2 ≤ positions.count position + (screen.isLit position).toNat ↔
      position ∈ positions ∧ screen.isLit position = true := by
    intro position
    have hcount := List.nodup_iff_count_le_one.mp hnodup position
    rw [← List.count_pos_iff]
    cases screen.isLit position with
    | false => simp [Nat.lt_succ_of_le hcount]
    | true => simp
  rw [Bool.eq_iff_iff, collision_flipAll_count, Bool.or_eq_true, List.any_eq_true]
  simp only [hlit]

/-! ## Which pixels a sprite flips -/

theorem mem_rowPositions {x y : Nat} {bits : UInt8} {position : Position} :
    position ∈ rowPositions x y bits ↔
      ∃ across < 8, bits.toNat.testBit (7 - across) = true ∧
        position = Position.wrap (x + across) y := by
  simp only [rowPositions, List.mem_filterMap, List.mem_range, Option.ite_none_right_eq_some,
    Option.some.injEq]
  constructor
  · rintro ⟨across, hacross, hbit, rfl⟩
    exact ⟨across, hacross, hbit, rfl⟩
  · rintro ⟨across, hacross, hbit, rfl⟩
    exact ⟨across, hacross, hbit, rfl⟩

theorem mem_spritePositions {x y : Nat} {sprite : List UInt8} {position : Position} :
    position ∈ spritePositions x y sprite ↔
      ∃ down < sprite.length, ∃ across < 8,
        (sprite.getD down 0).toNat.testBit (7 - across) = true ∧
          position = Position.wrap (x + across) (y + down) := by
  simp only [spritePositions, List.mem_flatMap, mem_rowPositions, Prod.exists,
    List.mk_mem_zipIdx_iff_getElem?]
  constructor
  · rintro ⟨bits, down, hbits, across, hacross, hbit, hposition⟩
    obtain ⟨hdown, hvalue⟩ := List.getElem?_eq_some_iff.mp hbits
    refine ⟨down, hdown, across, hacross, ?_, hposition⟩
    rwa [List.getD_eq_getElem _ _ hdown, hvalue]
  · rintro ⟨down, hdown, across, hacross, hbit, hposition⟩
    rw [List.getD_eq_getElem _ _ hdown] at hbit
    exact ⟨_, down, List.getElem?_eq_getElem hdown, across, hacross, hbit, hposition⟩

/-- The pixels of one row are in different columns. -/
theorem nodup_rowPositions (x y : Nat) (bits : UInt8) : (rowPositions x y bits).Nodup := by
  rw [rowPositions, List.Nodup, List.pairwise_filterMap]
  refine List.Pairwise.imp_of_mem ?_ List.pairwise_lt_range
  intro across other hacross hother hlt position hposition second hsecond
  rw [List.mem_range] at hacross hother
  rw [Option.ite_none_right_eq_some, Option.some.injEq] at hposition hsecond
  rintro rfl
  have hcolumn : (x + across) % 64 = (x + other) % 64 :=
    congrArg (fun position => position.column.val) (hposition.2.trans hsecond.2.symm)
  omega

/-- The rows of a sprite no taller than the screen lie in different rows. -/
theorem nodup_spritePositions (x y : Nat) {sprite : List UInt8} (hsprite : sprite.length ≤ 32) :
    (spritePositions x y sprite).Nodup := by
  rw [spritePositions, List.nodup_flatMap]
  refine ⟨fun entry _ => nodup_rowPositions .., ?_⟩
  rw [List.pairwise_iff_getElem]
  intro down other hdown hother hlt
  rw [List.length_zipIdx] at hdown hother
  rw [List.getElem_zipIdx, List.getElem_zipIdx]
  -- a pixel of two rows would lie as far below the corner as both of them
  intro position hposition hsame
  obtain ⟨_, _, _, hfirst⟩ := mem_rowPositions.mp hposition
  obtain ⟨_, _, _, hsecond⟩ := mem_rowPositions.mp hsame
  have hrow : (y + (0 + down)) % 32 = (y + (0 + other)) % 32 :=
    congrArg (fun position => position.row.val) (hfirst.symm.trans hsecond)
  omega

/-! ## Drawing -/

/-- Drawing a sprite flips its pixels. -/
theorem isLit_draw (screen : Screen) (x y : UInt8) {sprite : List UInt8}
    (hsprite : sprite.length ≤ 32) (position : Position) :
    (screen.draw x y sprite).1.isLit position
      = (screen.isLit position ^^ decide (position ∈ spritePositions x.toNat y.toNat sprite)) :=
  isLit_flipAll screen false (nodup_spritePositions _ _ hsprite) position

/-- A sprite puts a lit pixel out if one of its pixels was lit. -/
theorem collision_draw (screen : Screen) (x y : UInt8) {sprite : List UInt8}
    (hsprite : sprite.length ≤ 32) :
    (screen.draw x y sprite).2 = (spritePositions x.toNat y.toNat sprite).any screen.isLit :=
  collision_flipAll screen false (nodup_spritePositions _ _ hsprite)

end Chip8.Screen
