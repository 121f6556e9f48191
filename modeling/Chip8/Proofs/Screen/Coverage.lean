import Chip8.Proofs.Screen.Drawing

/-! What a drawing does to each pixel. The pixel is flipped once for each set dot
that lands on it; how many there are is counted from the bytes of the sprite and
the coordinates of the pixel alone. -/
namespace Chip8

/-- Whether a dot lands on a pixel. -/
def Placement.covers (placement : Placement) (resolution : Resolution) (dot : Dot) (x y : Nat) :
    Bool :=
  let column := placement.x % resolution.width + dot.column
  let row := placement.y % resolution.height + dot.row
  if placement.clip then column = x ∧ row = y
  else column % resolution.width = x ∧ row % resolution.height = y

theorem Placement.cell?_eq_some_iff {placement : Placement} {resolution : Resolution} {dot : Dot}
    {x y : Nat} (column : x < resolution.width) (row : y < resolution.height) :
    placement.cell? resolution dot = some (y * resolution.width + x) ↔
      placement.covers resolution dot x y = true := by
  constructor
  · intro found
    obtain ⟨place, inside⟩ := cell?_eq_some found
    obtain ⟨sameColumn, sameRow⟩ :=
      Resolution.position_inj column (Nat.mod_lt _ resolution.width_pos) place
    unfold covers
    split
    · rename_i clip
      obtain ⟨narrow, low⟩ := inside clip
      rw [Nat.mod_eq_of_lt narrow] at sameColumn
      rw [Nat.mod_eq_of_lt low] at sameRow
      exact decide_eq_true ⟨sameColumn.symm, sameRow.symm⟩
    · exact decide_eq_true ⟨sameColumn.symm, sameRow.symm⟩
  · intro lands
    unfold covers at lands
    unfold cell?
    split at lands
    · rename_i clip
      obtain ⟨sameColumn, sameRow⟩ := of_decide_eq_true lands
      simp only [sameColumn, sameRow, Nat.not_le.mpr column, Nat.not_le.mpr row, decide_false,
        Bool.or_false, Bool.and_false, Bool.false_eq_true, if_false, Nat.mod_eq_of_lt column,
        Nat.mod_eq_of_lt row]
    · rename_i wrap
      obtain ⟨sameColumn, sameRow⟩ := of_decide_eq_true lands
      simp only [wrap, Bool.false_and, Bool.false_eq_true, if_false, sameColumn, sameRow]

/-- How many set dots of a sprite land on a pixel. -/
def Stroke.hits (stroke : Stroke) (resolution : Resolution) (x y : Nat) : Nat :=
  stroke.dots.countP fun dot => stroke.isSet dot && stroke.placement.covers resolution dot x y

/-- A pixel is flipped once for each set dot that lands on it. -/
theorem Stroke.count_positions (stroke : Stroke) {resolution : Resolution}
    (column : x < resolution.width) (row : y < resolution.height) :
    (stroke.positions resolution).count (y * resolution.width + x) = stroke.hits resolution x y := by
  rw [positions, List.count_filterMap, stroke.sprite_perm.countP_eq, List.countP_filter, hits]
  apply List.countP_congr
  intro dot _
  rw [Bool.and_eq_true, Bool.and_eq_true, beq_iff_eq, Placement.cell?_eq_some_iff column row,
    and_comm]

namespace Screen

theorem count_positions (screen : Screen) (stroke : Stroke) (column : x < screen.width)
    (row : y < screen.height) :
    (stroke.positions screen.resolution).count (y * screen.width + x) =
      stroke.hits screen.resolution x y := stroke.count_positions column row

/-- Every flipped position is that of a pixel that some dot hits. -/
theorem exists_position_iff (screen : Screen) (stroke : Stroke) (holds : Nat → Prop) :
    (∃ position ∈ stroke.positions screen.resolution, holds position) ↔
      ∃ x y, x < screen.width ∧ y < screen.height ∧ 1 ≤ stroke.hits screen.resolution x y ∧
        holds (y * screen.width + x) := by
  constructor
  · rintro ⟨position, member, held⟩
    obtain ⟨x, y, column, row, place⟩ :=
      screen.exists_pixel_of_lt_area (Stroke.lt_area_of_mem_positions member)
    subst place
    refine ⟨x, y, column, row, ?_, held⟩
    rw [← screen.count_positions stroke column row]
    exact List.count_pos_iff.mpr member
  · rintro ⟨x, y, column, row, hit, held⟩
    rw [← screen.count_positions stroke column row] at hit
    exact ⟨y * screen.width + x, List.count_pos_iff.mp hit, held⟩

theorem shade_stroke (screen : Screen) (stroke : Stroke) (column : x < screen.width)
    (row : y < screen.height) :
    (screen.toggleAll (stroke.positions screen.resolution)).shade x y =
      screen.shade x y ^^^ UInt8.ofNat (stroke.hits screen.resolution x y % 2) := by
  have flipped := cell_toggleAll screen (stroke.positions screen.resolution)
    (screen.position_stored column row)
  rw [screen.count_positions stroke column row] at flipped
  rw [shade_eq_cell screen column row, shade_toggleAll screen _ column row, flipped]
  rcases Nat.mod_two_eq_zero_or_one (stroke.hits screen.resolution x y) with even | odd
  · rw [even, if_neg (by decide)]
    exact UInt8.xor_zero.symm
  · rw [odd, if_pos rfl]
    rfl

/-- What a drawing leaves, pixel by pixel, by how many set dots land on each. -/
structure DrawsExactly (screen : Screen) (stroke : Stroke) : Prop where
  sound : (screen.perform stroke.call).2.Sound
  shade : ∀ x y, x < screen.width → y < screen.height → (screen.perform stroke.call).2.shade x y =
    screen.shade x y ^^^ UInt8.ofNat (stroke.hits screen.resolution x y % 2)
  pixel : ∀ x y, x < screen.width → y < screen.height → (screen.perform stroke.call).2.pixel x y =
    (screen.pixel x y ^^ decide (stroke.hits screen.resolution x y % 2 = 1))
  collision : ∃ collided, (screen.perform stroke.call).1 = .flag collided ∧
    (collided = true ↔ ∃ x y, x < screen.width ∧ y < screen.height ∧
      (1 ≤ stroke.hits screen.resolution x y ∧ screen.pixel x y = true ∨
        2 ≤ stroke.hits screen.resolution x y))
  dirty : (screen.perform stroke.call).2.dirty = true ↔ screen.dirty = true ∨
    ∃ x y, x < screen.width ∧ y < screen.height ∧ 1 ≤ stroke.hits screen.resolution x y
  resolution : (screen.perform stroke.call).2.resolution = screen.resolution
  rest : ∀ position, screen.resolution.area ≤ position →
    (screen.perform stroke.call).2.cell position = screen.cell position

theorem pixel_stroke {screen : Screen} (sound : screen.Sound) (stroke : Stroke)
    (column : x < screen.width) (row : y < screen.height) :
    (screen.toggleAll (stroke.positions screen.resolution)).pixel x y =
      (screen.pixel x y ^^ decide (stroke.hits screen.resolution x y % 2 = 1)) := by
  rw [pixel, pixel, shade_stroke screen stroke column row]
  rcases sound.shade x y with before | before
  · rw [before]
    rcases Nat.mod_two_eq_zero_or_one (stroke.hits screen.resolution x y) with parity | parity
    · rw [parity]; rfl
    · rw [parity]; rfl
  · rw [before]
    rcases Nat.mod_two_eq_zero_or_one (stroke.hits screen.resolution x y) with parity | parity
    · rw [parity]; rfl
    · rw [parity]; rfl

theorem collision_stroke (screen : Screen) (stroke : Stroke) :
    (screen.draw stroke.sprite stroke.placement).collision = true ↔
      ∃ x y, x < screen.width ∧ y < screen.height ∧
        (1 ≤ stroke.hits screen.resolution x y ∧ screen.pixel x y = true ∨
          2 ≤ stroke.hits screen.resolution x y) := by
  have hit := exists_position_iff screen stroke fun position =>
    screen.cell position ≠ 0 ∨ 2 ≤ (stroke.positions screen.resolution).count position
  rw [draw_stroke, flips_collides_iff fun _ => Stroke.stored_of_mem_positions,
    or_iff_right Bool.false_ne_true, hit]
  constructor
  · rintro ⟨x, y, column, row, hit, on | twice⟩
    · exact ⟨x, y, column, row, .inl ⟨hit, (screen.pixel_eq_true_iff x y).mpr ⟨column, row, on⟩⟩⟩
    · rw [screen.count_positions stroke column row] at twice
      exact ⟨x, y, column, row, .inr twice⟩
  · rintro ⟨x, y, column, row, ⟨hit, on⟩ | twice⟩
    · exact ⟨x, y, column, row, hit, .inl ((screen.pixel_eq_true_iff x y).mp on).2.2⟩
    · refine ⟨x, y, column, row, Nat.le_of_succ_le twice, .inr ?_⟩
      rw [← screen.count_positions stroke column row] at twice
      exact twice

theorem dirty_stroke (screen : Screen) (stroke : Stroke) :
    (screen.toggleAll (stroke.positions screen.resolution)).dirty = true ↔ screen.dirty = true ∨
      ∃ x y, x < screen.width ∧ y < screen.height ∧ 1 ≤ stroke.hits screen.resolution x y := by
  have hit := exists_position_iff screen stroke fun _ => True
  simp only [and_true] at hit
  rw [dirty_toggleAll, Bool.or_eq_true, ← hit, Bool.not_eq_true', List.isEmpty_eq_false_iff_exists_mem]

theorem draws_exactly {screen : Screen} (sound : screen.Sound) (stroke : Stroke) :
    screen.DrawsExactly stroke where
  sound := sound.perform stroke.call
  shade x y column row := by
    rw [perform_stroke]
    exact shade_stroke screen stroke column row
  pixel x y column row := by
    rw [perform_stroke]
    exact pixel_stroke sound stroke column row
  collision := by
    rw [perform_stroke]
    exact ⟨_, rfl, collision_stroke screen stroke⟩
  dirty := by
    rw [perform_stroke]
    exact dirty_stroke screen stroke
  resolution := by
    rw [perform_stroke]
    exact resolution_toggleAll screen _
  rest position outside := by
    rw [perform_stroke]
    apply cell_toggleAll_of_absent
    intro member
    exact Nat.not_lt.mpr outside (Stroke.lt_area_of_mem_positions member)

/-- A sprite one row higher than the screen, wrapped around its lower right corner: two
dots land on the corner, which ends as it began, and yet they collide. -/
theorem tall_sprite_drawn :
    let stroke : Stroke := ⟨false, 0x80 :: List.replicate 31 0 ++ [0xC0], ⟨63, 31, false⟩⟩
    (blank .low).Sound ∧ ((blank .low).perform stroke.call).1 = .flag true ∧
      ((blank .low).perform stroke.call).2.pixel 63 31 = false ∧
      ((blank .low).perform stroke.call).2.pixel 0 31 = true := by
  intro stroke
  have sound := Sound.blank .low
  have drawn := draws_exactly sound stroke
  have corner : stroke.hits .low 63 31 = 2 := by decide +kernel
  have edge : stroke.hits .low 0 31 = 1 := by decide +kernel
  obtain ⟨collided, answered, collides⟩ := drawn.collision
  have twice : collided = true :=
    collides.mpr ⟨63, 31, by decide, by decide, .inr (Nat.le_of_eq corner.symm)⟩
  subst twice
  refine ⟨sound, answered, ?_, ?_⟩
  · have flipped := drawn.pixel 63 31 (by decide) (by decide)
    rw [pixel_blank, show stroke.hits (blank .low).resolution 63 31 = 2 from corner] at flipped
    exact flipped
  · have flipped := drawn.pixel 0 31 (by decide) (by decide)
    rw [pixel_blank, show stroke.hits (blank .low).resolution 0 31 = 1 from edge] at flipped
    exact flipped

end Screen

end Chip8
