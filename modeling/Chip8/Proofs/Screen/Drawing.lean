import Mathlib.Data.Nat.ModEq
import Chip8.Proofs.Screen.Dots
import Chip8.Proofs.Screen.Toggling

/-! The algebra of drawing. Drawings may be made in any order, a second copy takes
the first one back, and the second of two equal drawings collides exactly where
the first one switched a pixel on. -/
namespace Chip8

/-- The column and the row of the pixel below a dot, counted past the edge. -/
theorem Placement.cell?_eq_some {placement : Placement} {resolution : Resolution} {dot : Dot}
    (found : placement.cell? resolution dot = some position) :
    position = (placement.y % resolution.height + dot.row) % resolution.height * resolution.width +
        (placement.x % resolution.width + dot.column) % resolution.width ∧
      (placement.clip = true → placement.x % resolution.width + dot.column < resolution.width ∧
        placement.y % resolution.height + dot.row < resolution.height) := by
  simp only [cell?] at found
  split at found
  · cases found
  · rename_i drawn
    cases found
    refine ⟨rfl, ?_⟩
    intro clip
    simp only [clip, Bool.true_and, Bool.or_eq_true, decide_eq_true_eq, not_or, Nat.not_le] at drawn
    exact drawn

theorem Resolution.position_inj {resolution : Resolution} {x y : Nat} {column row : Nat}
    (first : x < resolution.width) (last : column < resolution.width)
    (same : y * resolution.width + x = row * resolution.width + column) : x = column ∧ y = row := by
  constructor
  · have rest := congrArg (· % resolution.width) same
    simp only [position_mod_width _ first, position_mod_width _ last] at rest
    exact rest
  · have quotient := congrArg (· / resolution.width) same
    simp only [position_div_width _ first, position_div_width _ last] at quotient
    exact quotient

/-- Two dots of a sprite that is no larger than the screen, or that is clipped to
it, never lie over the same pixel. -/
theorem Placement.cell?_inj {placement : Placement} {resolution : Resolution} {first last : Dot}
    (columns : first.column < resolution.width ∧ last.column < resolution.width)
    (rows : placement.clip = true ∨
      first.row < resolution.height ∧ last.row < resolution.height)
    (foundFirst : placement.cell? resolution first = some position)
    (foundLast : placement.cell? resolution last = some position) : first = last := by
  obtain ⟨placeFirst, clippedFirst⟩ := cell?_eq_some foundFirst
  obtain ⟨placeLast, clippedLast⟩ := cell?_eq_some foundLast
  have positive : 0 < resolution.width := by omega
  obtain ⟨column, row⟩ := Resolution.position_inj (Nat.mod_lt _ positive) (Nat.mod_lt _ positive)
    (placeFirst.symm.trans placeLast)
  have sameColumn := (Nat.ModEq.add_left_cancel' _ column).eq_of_lt_of_lt columns.1 columns.2
  have sameRow : first.row = last.row := by
    rcases rows with clip | low
    · have short := (clippedFirst clip).2
      have tall := (clippedLast clip).2
      rw [Nat.mod_eq_of_lt short, Nat.mod_eq_of_lt tall] at row
      exact Nat.add_left_cancel row
    · exact (Nat.ModEq.add_left_cancel' _ row).eq_of_lt_of_lt low.1 low.2
  cases first
  cases last
  cases sameColumn
  cases sameRow
  rfl

namespace Screen

/-- A flipped pixel collides if it was on, or if it is flipped again. -/
theorem flips_collides_iff {positions : List Nat}
    (stored : ∀ position ∈ positions, position < screenCapacity) (drawing : Drawing) :
    (positions.foldl Drawing.flip drawing).collision = true ↔ drawing.collision = true ∨
      ∃ position ∈ positions, drawing.screen.cell position ≠ 0 ∨ 2 ≤ positions.count position := by
  induction positions generalizing drawing with
  | nil => simp
  | cons position rest ih =>
    have restStored : ∀ other ∈ rest, other < screenCapacity :=
      fun other member => stored other (List.mem_cons_of_mem position member)
    rw [List.foldl_cons, ih restStored]
    constructor
    · rintro (before | ⟨other, member, again⟩)
      · rcases (Bool.or_eq_true _ _).mp before with earlier | on
        · exact .inl earlier
        · exact .inr ⟨position, List.mem_cons_self, .inl (bne_iff_ne.mp on)⟩
      · refine .inr ⟨other, List.mem_cons_of_mem position member, ?_⟩
        by_cases same : position = other
        · subst same
          have later := List.count_pos_iff.mpr member
          rw [List.count_cons_self]
          exact .inr (by omega)
        · rw [List.count_cons_of_ne same, ← cell_toggle_of_ne drawing.screen same]
          exact again
    · rintro (earlier | ⟨other, member, again⟩)
      · exact .inl ((Bool.or_eq_true _ _).mpr (.inl earlier))
      · by_cases off : drawing.screen.cell position = 0
        · refine .inr ⟨other, ?_⟩
          change _ ∧ ((drawing.screen.toggle position).cell other ≠ 0 ∨ 2 ≤ rest.count other)
          by_cases same : position = other
          · subst same
            -- the first flip switches it on, and the second one finds it so
            rw [List.count_cons_self] at again
            have twice := again.resolve_left fun on => on off
            rw [cell_toggle _ _ _ (stored position List.mem_cons_self), if_pos rfl, off]
            exact ⟨List.count_pos_iff.mp (by omega), .inl (by decide)⟩
          · rw [List.count_cons_of_ne same] at again
            rw [cell_toggle_of_ne drawing.screen same]
            exact ⟨(List.mem_cons.mp member).resolve_left (Ne.symm same), again⟩
        · exact .inl ((Bool.or_eq_true _ _).mpr (.inr (bne_iff_ne.mpr off)))

/-- Where no pixel is flipped twice, one that was on before is all it takes to
collide. -/
theorem flips_collision {positions : List Nat} (distinct : positions.Nodup)
    (stored : ∀ position ∈ positions, position < screenCapacity) (drawing : Drawing) :
    (positions.foldl Drawing.flip drawing).collision = true ↔
      drawing.collision = true ∨ ∃ position ∈ positions, drawing.screen.cell position ≠ 0 := by
  have once : ∀ position, ¬ 2 ≤ positions.count position :=
    fun position => Nat.not_le.mpr (Nat.lt_succ_of_le (List.nodup_iff_count_le_one.mp distinct position))
  rw [flips_collides_iff stored]
  simp only [once, or_false]

end Screen

namespace Stroke

/-- The positions of the pixels below the dots, one for each dot. -/
def positions (stroke : Stroke) (resolution : Resolution) : List Nat :=
  stroke.sprite.filterMap (stroke.placement.cell? resolution)

/-- A sprite that is clipped, or no higher than the screen, flips no pixel twice. -/
theorem nodup_positions (stroke : Stroke) {resolution : Resolution}
    (fits : stroke.placement.clip = true ∨ stroke.rows ≤ resolution.height) :
    (stroke.positions resolution).Nodup := by
  have narrow : stroke.columns ≤ resolution.width :=
    Nat.le_trans stroke.columns_le (by cases resolution <;> decide)
  apply List.pairwise_filterMap.mpr
  apply stroke.nodup_sprite.imp_of_mem
  intro first last memberFirst memberLast apart position foundFirst other foundLast same
  subst same
  have boundsFirst := mem_dots.mp (mem_sprite_iff.mp memberFirst).1
  have boundsLast := mem_dots.mp (mem_sprite_iff.mp memberLast).1
  apply apart
  apply Placement.cell?_inj ⟨Nat.lt_of_lt_of_le boundsFirst.1 narrow,
    Nat.lt_of_lt_of_le boundsLast.1 narrow⟩ ?_ foundFirst foundLast
  rcases fits with clip | low
  · exact .inl clip
  · exact .inr ⟨Nat.lt_of_lt_of_le boundsFirst.2 low, Nat.lt_of_lt_of_le boundsLast.2 low⟩

theorem lt_area_of_mem_positions {stroke : Stroke} {resolution : Resolution}
    (member : position ∈ stroke.positions resolution) : position < resolution.area := by
  obtain ⟨dot, _, found⟩ := List.mem_filterMap.mp member
  exact Placement.cell?_lt_area found

theorem stored_of_mem_positions {stroke : Stroke} {resolution : Resolution}
    (member : position ∈ stroke.positions resolution) : position < screenCapacity :=
  Nat.lt_of_lt_of_le (lt_area_of_mem_positions member) (area_le_capacity resolution)

end Stroke

namespace Screen

theorem draw_stroke (screen : Screen) (stroke : Stroke) :
    screen.draw stroke.sprite stroke.placement =
      (stroke.positions screen.resolution).foldl Drawing.flip ⟨screen, false⟩ := rfl

theorem perform_stroke (screen : Screen) (stroke : Stroke) :
    screen.perform stroke.call = (.flag (screen.draw stroke.sprite stroke.placement).collision,
      screen.toggleAll (stroke.positions screen.resolution)) := by
  have drawn : (screen.draw stroke.sprite stroke.placement).screen =
      screen.toggleAll (stroke.positions screen.resolution) := screen_draw _ _ _
  rw [← drawn]
  unfold Stroke.call Stroke.sprite
  split
  · rfl
  · rfl

/-- Makes drawings one after the other. -/
def drawAll (screen : Screen) (strokes : List Stroke) : Screen :=
  strokes.foldl (fun reached stroke => (reached.perform stroke.call).2) screen

theorem drawAll_eq (screen : Screen) (strokes : List Stroke) :
    screen.drawAll strokes = screen.toggleAll (strokes.flatMap (·.positions screen.resolution)) := by
  induction strokes generalizing screen with
  | nil => rfl
  | cons stroke rest ih =>
    have step : screen.drawAll (stroke :: rest) = (screen.perform stroke.call).2.drawAll rest := rfl
    rw [step, perform_stroke, ih, resolution_toggleAll, List.flatMap_cons, toggleAll_append]

theorem drawAll_singleton (screen : Screen) (stroke : Stroke) :
    screen.drawAll [stroke] = screen.toggleAll (stroke.positions screen.resolution) := by
  rw [drawAll_eq, List.flatMap_singleton]

theorem resolution_drawAll (screen : Screen) (strokes : List Stroke) :
    (screen.drawAll strokes).resolution = screen.resolution := by
  rw [drawAll_eq, resolution_toggleAll]

theorem cells_drawAll_cancel (screen : Screen) (before between after : List Stroke)
    (stroke : Stroke) :
    (screen.drawAll (before ++ stroke :: (between ++ stroke :: after))).cells =
      (screen.drawAll (before ++ (between ++ after))).cells := by
  rw [drawAll_eq, drawAll_eq]
  apply cells_toggleAll_of_parity
  intro position
  simp only [List.flatMap_append, List.flatMap_cons, List.count_append]
  omega

theorem pixel_eq_true_iff (screen : Screen) (x y : Nat) :
    screen.pixel x y = true ↔
      x < screen.width ∧ y < screen.height ∧ screen.cell (y * screen.width + x) ≠ 0 := by
  rw [pixel, bne_iff_ne, shade]
  by_cases active : x < screen.width ∧ y < screen.height
  · rw [if_pos active]
    exact ⟨fun on => ⟨active.1, active.2, on⟩, fun on => on.2.2⟩
  · rw [if_neg active]
    exact ⟨fun on => absurd rfl on, fun on => absurd ⟨on.1, on.2.1⟩ active⟩

theorem pixel_congr {first last : Screen} (cells : first.cells = last.cells)
    (resolution : first.resolution = last.resolution) (x y : Nat) :
    first.pixel x y = last.pixel x y := by
  cases first
  cases last
  cases cells
  cases resolution
  rfl

/-- A drawing that flips no pixel twice switches on just those of its pixels that
were off. -/
theorem cell_toggleAll_ne_zero {screen : Screen} (sound : screen.Sound) {positions : List Nat}
    (distinct : positions.Nodup) (member : position ∈ positions) (stored : position < screenCapacity) :
    (screen.toggleAll positions).cell position ≠ 0 ↔ screen.cell position = 0 := by
  rw [cell_toggleAll screen positions stored, List.count_eq_one_of_mem distinct member, if_pos rfl]
  rcases sound.binary position with off | on
  · rw [off]
    decide
  · rw [on]
    decide

/-- A flipped pixel that is on afterwards was switched on. -/
theorem switchedOn_of_mem {screen : Screen} (sound : screen.Sound) {positions : List Nat}
    (distinct : positions.Nodup) (member : position ∈ positions)
    (active : position < screen.resolution.area)
    (on : (screen.toggleAll positions).cell position ≠ 0) :
    ∃ x y, screen.pixel x y = false ∧ (screen.toggleAll positions).pixel x y = true := by
  have stored := Nat.lt_of_lt_of_le active (area_le_capacity screen.resolution)
  have off := (cell_toggleAll_ne_zero sound distinct member stored).mp on
  obtain ⟨x, y, column, row, place⟩ := screen.exists_pixel_of_lt_area active
  refine ⟨x, y, ?_, ?_⟩
  · apply Bool.eq_false_iff.mpr
    intro before
    have lit := ((screen.pixel_eq_true_iff x y).mp before).2.2
    rw [place] at lit
    exact lit off
  · apply (pixel_eq_true_iff _ x y).mpr
    rw [width_toggleAll, height_toggleAll]
    exact ⟨column, row, place ▸ on⟩

/-- Only a flipped pixel is switched on. -/
theorem mem_of_switchedOn {screen : Screen} {positions : List Nat}
    (off : screen.pixel x y = false) (on : (screen.toggleAll positions).pixel x y = true) :
    ∃ position ∈ positions, (screen.toggleAll positions).cell position ≠ 0 := by
  obtain ⟨column, row, lit⟩ := (pixel_eq_true_iff _ x y).mp on
  rw [width_toggleAll] at column lit
  rw [height_toggleAll] at row
  refine ⟨y * screen.width + x, ?_, lit⟩
  by_contra absent
  rw [cell_toggleAll_of_absent screen absent] at lit
  rw [(screen.pixel_eq_true_iff x y).mpr ⟨column, row, lit⟩] at off
  cases off

theorem collision_again {screen : Screen} (sound : screen.Sound) {stroke : Stroke}
    (fits : stroke.placement.clip = true ∨ stroke.rows ≤ screen.height) :
    ((screen.drawAll [stroke]).draw stroke.sprite stroke.placement).collision = true ↔
      ∃ x y, screen.pixel x y = false ∧ (screen.drawAll [stroke]).pixel x y = true := by
  have distinct : (stroke.positions screen.resolution).Nodup := stroke.nodup_positions fits
  rw [draw_stroke, resolution_drawAll,
    flips_collision distinct fun _ => Stroke.stored_of_mem_positions,
    or_iff_right Bool.false_ne_true, drawAll_singleton]
  constructor
  · rintro ⟨position, member, on⟩
    exact switchedOn_of_mem sound distinct member (Stroke.lt_area_of_mem_positions member) on
  · rintro ⟨x, y, off, on⟩
    exact mem_of_switchedOn off on

/-- A pixel that was off is on after a drawing that flips it. -/
theorem pixel_drawAll_of_off {screen : Screen} (sound : screen.Sound) {stroke : Stroke}
    (fits : stroke.placement.clip = true ∨ stroke.rows ≤ screen.height)
    (column : x < screen.width) (row : y < screen.height)
    (member : y * screen.width + x ∈ stroke.positions screen.resolution)
    (off : screen.pixel x y = false) : (screen.drawAll [stroke]).pixel x y = true := by
  have distinct : (stroke.positions screen.resolution).Nodup := stroke.nodup_positions fits
  have stored := Stroke.stored_of_mem_positions member
  rw [pixel, bne_eq_false_iff_eq, screen.shade_eq_cell column row] at off
  rw [pixel_eq_true_iff, drawAll_singleton, width_toggleAll, height_toggleAll]
  exact ⟨column, row, (cell_toggleAll_ne_zero sound distinct member stored).mpr off⟩

/-- The laws of drawing on one screen. -/
structure DrawsByXor (screen : Screen) : Prop where
  resolution : ∀ strokes, (screen.drawAll strokes).resolution = screen.resolution
  reorder : ∀ first last : List Stroke, first.Perm last →
    screen.drawAll first = screen.drawAll last
  cancel : ∀ (before between after : List Stroke) (stroke : Stroke),
    (screen.drawAll (before ++ stroke :: (between ++ stroke :: after))).cells =
      (screen.drawAll (before ++ (between ++ after))).cells
  restore : ∀ stroke x y, (screen.drawAll [stroke, stroke]).pixel x y = screen.pixel x y
  again : ∀ stroke : Stroke, stroke.placement.clip = true ∨ stroke.rows ≤ screen.height →
    (((screen.drawAll [stroke]).perform stroke.call).1 = .flag true ↔
      ∃ x y, screen.pixel x y = false ∧ (screen.drawAll [stroke]).pixel x y = true)

theorem draws_by_xor {screen : Screen} (sound : screen.Sound) : screen.DrawsByXor where
  resolution strokes := screen.resolution_drawAll strokes
  reorder first last reordered := by
    rw [drawAll_eq, drawAll_eq]
    exact screen.toggleAll_perm (reordered.flatMap_right _)
  cancel before between after stroke := screen.cells_drawAll_cancel before between after stroke
  restore stroke x y :=
    pixel_congr (screen.cells_drawAll_cancel [] [] [] stroke) (screen.resolution_drawAll _) x y
  again stroke fits := by
    rw [perform_stroke, Answer.flag.injEq]
    exact collision_again sound fits

/-- A sprite that is wrapped around the lower right corner of a blank screen
collides when it is drawn again. -/
theorem corner_sprite_collides :
    let stroke : Stroke := ⟨false, [0xFF, 0x81], ⟨60, 31, false⟩⟩
    (blank .low).Sound ∧ stroke.rows ≤ (blank .low).height ∧
      (((blank .low).drawAll [stroke]).perform stroke.call).1 = .flag true := by
  intro stroke
  have sound := Sound.blank .low
  have low : stroke.rows ≤ (blank .low).height := by decide
  refine ⟨sound, low, ((draws_by_xor sound).again stroke (.inr low)).mpr ⟨3, 0, pixel_blank .low 3 0, ?_⟩⟩
  rw [pixel_eq_true_iff, drawAll_singleton]
  have lit : (3 : Nat) ∈ stroke.positions .low := by decide
  have distinct := stroke.nodup_positions (.inr low)
  exact ⟨by decide, by decide, (cell_toggleAll_ne_zero sound distinct lit (by decide)).mpr (cell_blank .low 3)⟩

end Screen

end Chip8
