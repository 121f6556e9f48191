import Chip8.Proofs.General
import Chip8.Proofs.Screen.StorageInvariant

/-! Flipping many pixels. Of each pixel only how often it is flipped counts, and
of that only whether it is odd; the order of the flips does not matter. -/
namespace Chip8.Screen

/-- Flips pixels one after the other, each by the position of its byte. -/
def toggleAll (screen : Screen) (positions : List Nat) : Screen := positions.foldl toggle screen

theorem toggleAll_cons (screen : Screen) (position : Nat) (rest : List Nat) :
    screen.toggleAll (position :: rest) = (screen.toggle position).toggleAll rest := rfl

theorem toggleAll_append (screen : Screen) (first last : List Nat) :
    screen.toggleAll (first ++ last) = (screen.toggleAll first).toggleAll last := List.foldl_append

theorem flips_screen (positions : List Nat) (drawing : Drawing) :
    (positions.foldl Drawing.flip drawing).screen = drawing.screen.toggleAll positions := by
  induction positions generalizing drawing with
  | nil => rfl
  | cons position rest ih => exact ih (drawing.flip position)

/-- To draw is to flip the pixel below each dot. -/
theorem screen_draw (screen : Screen) (sprite : Sprite) (placement : Placement) :
    (screen.draw sprite placement).screen =
      screen.toggleAll (sprite.filterMap (placement.cell? screen.resolution)) :=
  flips_screen _ _

theorem cell_toggle_of_ne (screen : Screen) {position other : Nat} (apart : position ≠ other) :
    (screen.toggle position).cell other = screen.cell other := by
  by_cases stored : other < screenCapacity
  · rw [cell_toggle _ _ _ stored, if_neg apart]
  · exact cell_past _ _ stored

theorem cell_toggleAll (screen : Screen) (positions : List Nat) {other : Nat}
    (stored : other < screenCapacity) :
    (screen.toggleAll positions).cell other =
      if positions.count other % 2 = 1 then screen.cell other ^^^ 1 else screen.cell other := by
  induction positions generalizing screen with
  | nil => rfl
  | cons position rest ih =>
    rw [toggleAll_cons, ih]
    by_cases same : position = other
    · subst same
      rw [cell_toggle _ _ _ stored, if_pos rfl, List.count_cons_self, UInt8.xor_one_xor_one]
      by_cases odd : rest.count position % 2 = 1
      · rw [if_pos odd, if_neg (by omega)]
      · rw [if_neg odd, if_pos (by omega)]
    · rw [cell_toggle_of_ne screen same, List.count_cons_of_ne same]

theorem cell_toggleAll_of_absent (screen : Screen) {positions : List Nat} (absent : other ∉ positions) :
    (screen.toggleAll positions).cell other = screen.cell other := by
  by_cases stored : other < screenCapacity
  · rw [cell_toggleAll screen positions stored, List.count_eq_zero_of_not_mem absent, if_neg (by decide)]
  · exact cell_past _ _ stored

theorem resolution_toggleAll (screen : Screen) (positions : List Nat) :
    (screen.toggleAll positions).resolution = screen.resolution := by
  induction positions generalizing screen with
  | nil => rfl
  | cons position rest ih => exact ih (screen.toggle position)

theorem width_toggleAll (screen : Screen) (positions : List Nat) :
    (screen.toggleAll positions).width = screen.width :=
  congrArg Resolution.width (screen.resolution_toggleAll positions)

theorem height_toggleAll (screen : Screen) (positions : List Nat) :
    (screen.toggleAll positions).height = screen.height :=
  congrArg Resolution.height (screen.resolution_toggleAll positions)

theorem shade_toggleAll (screen : Screen) (positions : List Nat) (column : x < screen.width)
    (row : y < screen.height) :
    (screen.toggleAll positions).shade x y =
      (screen.toggleAll positions).cell (y * screen.width + x) := by
  rw [shade, width_toggleAll, height_toggleAll, if_pos ⟨column, row⟩]

theorem dirty_toggleAll (screen : Screen) (positions : List Nat) :
    (screen.toggleAll positions).dirty = (screen.dirty || !positions.isEmpty) := by
  induction positions generalizing screen with
  | nil => exact (Bool.or_false _).symm
  | cons position rest ih =>
    rw [toggleAll_cons, ih]
    exact (Bool.or_true _).symm

theorem cells_eq_of_cell {first last : Screen}
    (same : ∀ position, position < screenCapacity → first.cell position = last.cell position) :
    first.cells = last.cells := by
  apply Vector.ext
  intro position stored
  rw [← cell_eq_getElem first stored, ← cell_eq_getElem last stored]
  exact same position stored

theorem cells_toggleAll_of_parity (screen : Screen) {first last : List Nat}
    (parity : ∀ position, first.count position % 2 = last.count position % 2) :
    (screen.toggleAll first).cells = (screen.toggleAll last).cells := by
  apply cells_eq_of_cell
  intro position stored
  rw [cell_toggleAll screen first stored, cell_toggleAll screen last stored, parity position]

theorem toggleAll_perm (screen : Screen) {first last : List Nat} (reordered : first.Perm last) :
    screen.toggleAll first = screen.toggleAll last := by
  have cells : (screen.toggleAll first).cells = (screen.toggleAll last).cells := by
    apply cells_toggleAll_of_parity
    intro position
    rw [reordered.count_eq position]
  have resolution := (screen.resolution_toggleAll first).trans (screen.resolution_toggleAll last).symm
  have dirty : (screen.toggleAll first).dirty = (screen.toggleAll last).dirty := by
    rw [dirty_toggleAll, dirty_toggleAll, reordered.isEmpty_eq]
  cases final : screen.toggleAll first
  cases other : screen.toggleAll last
  rw [final, other] at cells resolution dirty
  cases cells
  cases resolution
  cases dirty
  rfl

theorem Drawing.flip_comm (drawing : Drawing) (first last : Nat) :
    (drawing.flip first).flip last = (drawing.flip last).flip first := by
  by_cases same : first = last
  · rw [same]
  · have screens : (drawing.screen.toggle first).toggle last =
        (drawing.screen.toggle last).toggle first :=
      drawing.screen.toggleAll_perm (.swap last first [])
    have later := cell_toggle_of_ne drawing.screen same
    have earlier := cell_toggle_of_ne drawing.screen (Ne.symm same)
    simp only [flip, screens, later, earlier, Bool.or_right_comm]

/-- Not even the collision depends on the order of the flips. -/
theorem flips_perm {first last : List Nat} (reordered : first.Perm last) (drawing : Drawing) :
    first.foldl Drawing.flip drawing = last.foldl Drawing.flip drawing :=
  reordered.foldl_eq' (fun one _ other _ reached => reached.flip_comm one other) drawing

/-- Flips that come later add their own collisions to the earlier ones. -/
theorem flips_eq (positions : List Nat) (drawing : Drawing) :
    positions.foldl Drawing.flip drawing =
      ⟨(positions.foldl Drawing.flip ⟨drawing.screen, false⟩).screen,
        drawing.collision || (positions.foldl Drawing.flip ⟨drawing.screen, false⟩).collision⟩ := by
  induction positions generalizing drawing with
  | nil => simp
  | cons position rest ih =>
    rw [List.foldl_cons, List.foldl_cons, ih, ih (Drawing.flip ⟨drawing.screen, false⟩ position)]
    simp only [Drawing.flip, Bool.false_or, Bool.or_assoc]

/-- What flips do depends on the bytes of the storage only. -/
theorem flips_congr (positions : List Nat) {first last : Drawing}
    (cells : first.screen.cells = last.screen.cells) (collision : first.collision = last.collision) :
    (positions.foldl Drawing.flip first).screen.cells = (positions.foldl Drawing.flip last).screen.cells ∧
      (positions.foldl Drawing.flip first).collision = (positions.foldl Drawing.flip last).collision := by
  induction positions generalizing first last with
  | nil => exact ⟨cells, collision⟩
  | cons position rest ih =>
    apply ih
    · simp only [Drawing.flip, toggle, cell, cells]
    · simp only [Drawing.flip, cell, cells, collision]

/-- Whether a change was seen in between is no matter for a drawing. -/
theorem draw_congr {first last : Screen} (cells : first.cells = last.cells)
    (resolution : first.resolution = last.resolution) (sprite : Sprite) (placement : Placement) :
    (first.draw sprite placement).screen.cells = (last.draw sprite placement).screen.cells ∧
      (first.draw sprite placement).collision = (last.draw sprite placement).collision := by
  unfold draw
  rw [resolution]
  exact flips_congr _ cells rfl

end Chip8.Screen
