import Chip8.Host.Part
import Chip8.Proofs.Screen.Repainting

/-! What holds of the storage of a screen, whatever was drawn on it. -/
namespace Chip8

theorem Placement.cell?_lt_area {placement : Placement} {resolution : Resolution} {dot : Dot}
    (found : placement.cell? resolution dot = some position) : position < resolution.area := by
  simp only [cell?] at found
  split at found
  · cases found
  · cases found
    exact Resolution.position_lt_area (Nat.mod_lt _ resolution.width_pos)
      (Nat.mod_lt _ resolution.height_pos)

namespace Screen

/-- Every byte is zero or one, and those past the active area are all zero. -/
structure Sound (screen : Screen) : Prop where
  binary : ∀ position, screen.cell position = 0 ∨ screen.cell position = 1
  dark : ∀ position, screen.resolution.area ≤ position → screen.cell position = 0

theorem cell_eq_getElem (screen : Screen) {position : Nat} (stored : position < screenCapacity) :
    screen.cell position = screen.cells[position] := by
  simp [cell, stored]

theorem cell_of_capacity_le (screen : Screen) {position : Nat}
    (outside : screenCapacity ≤ position) : screen.cell position = 0 := by
  simp [cell, Nat.not_lt.mpr outside]

theorem cell_past (first last : Screen) {position : Nat} (outside : ¬ position < screenCapacity) :
    first.cell position = last.cell position := by
  rw [cell_of_capacity_le first (Nat.not_lt.mp outside), cell_of_capacity_le last (Nat.not_lt.mp outside)]

theorem Sound.blank (resolution : Resolution) : (blank resolution).Sound :=
  ⟨fun position => .inl (cell_blank resolution position), fun position _ => cell_blank resolution position⟩

/-- The mark of an unseen change says nothing about the storage. -/
theorem Sound.mark {screen : Screen} (sound : screen.Sound) (dirty : Bool) :
    { screen with dirty }.Sound := ⟨sound.binary, sound.dark⟩

theorem Sound.shade {screen : Screen} (sound : screen.Sound) (x y : Nat) :
    screen.shade x y = 0 ∨ screen.shade x y = 1 := by
  unfold Screen.shade
  split
  · exact sound.binary _
  · exact .inl rfl

theorem Sound.repaint {screen : Screen} (sound : screen.Sound) {color : Nat → Nat → UInt8}
    (binary : ∀ x y, color x y = 0 ∨ color x y = 1) : (screen.repaint color).Sound := by
  constructor
  · intro position
    by_cases stored : position < screenCapacity
    · rw [cell_repaint _ _ _ stored]
      split
      · exact binary _ _
      · exact sound.binary position
    · exact .inl (cell_of_capacity_le _ (Nat.not_lt.mp stored))
  · intro position (outside : screen.resolution.area ≤ position)
    by_cases stored : position < screenCapacity
    · rw [cell_repaint _ _ _ stored, if_neg (Nat.not_lt.mpr outside)]
      exact sound.dark position outside
    · exact cell_of_capacity_le _ (Nat.not_lt.mp stored)

theorem Sound.scrollDown {screen : Screen} (sound : screen.Sound) (rows : Nat) :
    (screen.scrollDown rows).Sound := by
  rw [scrollDown_eq]
  apply sound.repaint
  intro x y
  split
  · exact sound.shade _ _
  · exact .inl rfl

theorem Sound.scrollLeft {screen : Screen} (sound : screen.Sound) (columns : Nat) :
    (screen.scrollLeft columns).Sound := by
  rw [scrollLeft_eq]
  apply sound.repaint
  intro x y
  split
  · exact sound.shade _ _
  · exact .inl rfl

theorem Sound.scrollRight {screen : Screen} (sound : screen.Sound) (columns : Nat) :
    (screen.scrollRight columns).Sound := by
  rw [scrollRight_eq]
  apply sound.repaint
  intro x y
  split
  · exact sound.shade _ _
  · exact .inl rfl

/-- Only an active pixel may be flipped: a flip past the area would light the
part that has to stay dark. -/
theorem Sound.toggle {screen : Screen} (sound : screen.Sound)
    (active : position < screen.resolution.area) : (screen.toggle position).Sound := by
  constructor
  · intro other
    by_cases stored : other < screenCapacity
    · rw [cell_toggle _ _ _ stored]
      split
      · rcases sound.binary other with off | on
        · exact .inr (by rw [off]; rfl)
        · exact .inl (by rw [on]; rfl)
      · exact sound.binary other
    · exact .inl (cell_of_capacity_le _ (Nat.not_lt.mp stored))
  · intro other (outside : screen.resolution.area ≤ other)
    by_cases stored : other < screenCapacity
    · rw [cell_toggle _ _ _ stored, if_neg (by omega)]
      exact sound.dark other outside
    · exact cell_of_capacity_le _ (Nat.not_lt.mp stored)

private theorem flips_sound (positions : List Nat) (drawing : Drawing)
    (sound : drawing.screen.Sound)
    (active : ∀ position ∈ positions, position < drawing.screen.resolution.area) :
    (positions.foldl Drawing.flip drawing).screen.Sound := by
  induction positions generalizing drawing with
  | nil => exact sound
  | cons position rest ih =>
    apply ih (drawing.flip position) (sound.toggle (active position List.mem_cons_self))
    intro other member
    exact active other (List.mem_cons_of_mem position member)

theorem Sound.draw {screen : Screen} (sound : screen.Sound) (sprite : Sprite)
    (placement : Placement) : (screen.draw sprite placement).screen.Sound := by
  apply flips_sound _ _ sound
  intro position member
  obtain ⟨dot, _, found⟩ := List.mem_filterMap.mp member
  exact Placement.cell?_lt_area found

theorem Sound.refresh {screen : Screen} (sound : screen.Sound) (paint : Screen → Option ε) :
    (screen.refresh paint).screen.Sound := by
  unfold Screen.refresh
  split
  · split
    · exact sound.mark false
    · exact sound
  · exact sound

/-- No call on a screen breaks its storage. -/
theorem Sound.perform {screen : Screen} (sound : screen.Sound) (call : ScreenCall) :
    (screen.perform call).2.Sound := by
  cases call with
  | clear => exact .blank _
  | draw bytes placement => exact sound.draw _ _
  | drawBig bytes placement => exact sound.draw _ _
  | scrollDown rows => exact sound.scrollDown rows
  | scrollLeft columns => exact sound.scrollLeft columns
  | scrollRight columns => exact sound.scrollRight columns
  | setResolution resolution => exact .blank resolution
  | forceRefresh => exact sound.mark true
  | takeUpdated => exact sound.mark false
  | refresh paint => exact sound.refresh paint

end Screen

end Chip8
