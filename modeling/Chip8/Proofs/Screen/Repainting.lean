import Chip8.Proofs.Cells
import Chip8.Screen.Scroll

/-! Scrolling as painting anew. Each scroll gives every active pixel a byte that
depends on the screen before it alone, however the bytes are moved. -/
namespace Chip8

namespace Cells

variable {size : Nat} {before after : Vector UInt8 size}

/-- Each byte of a stretch comes from an offset in the stretch, or is zero. -/
structure Rearranged (before after : Vector UInt8 size) (start length : Nat)
    (origin? : Nat → Option Nat) : Prop where
  inside : ∀ offset, offset < length →
    after[start + offset]? = ((origin? offset).map fun origin => before[start + origin]?).getD (some 0)
  outside : ∀ position, ¬ (start ≤ position ∧ position < start + length) →
    after[position]? = before[position]?

def fromBelow? (distance offset : Nat) : Option Nat :=
  if distance ≤ offset then some (offset - distance) else none

def fromAbove? (length distance offset : Nat) : Option Nat :=
  if offset + distance < length then some (offset + distance) else none

theorem fromBelow?_lt (found : fromBelow? distance offset = some origin) (within : offset < length) :
    origin < length := by
  obtain ⟨_, same⟩ := Option.ite_some_none_eq_some.mp found
  subst same
  exact Nat.lt_of_le_of_lt (Nat.sub_le _ _) within

theorem fromAbove?_lt (found : fromAbove? length distance offset = some origin) : origin < length := by
  obtain ⟨inside, same⟩ := Option.ite_some_none_eq_some.mp found
  subst same
  exact inside

theorem rearranged_moveForward (cells : Vector UInt8 size) (inside : start + length ≤ size)
    (short : distance ≤ length) :
    Rearranged cells (moveForward cells start length distance) start length (fromBelow? distance) where
  inside offset within := by
    rw [getElem?_moveForward cells inside short, if_pos (by omega), fromBelow?]
    by_cases kept : distance ≤ offset
    · rw [if_neg (by omega), if_pos kept, Nat.add_sub_assoc kept]
      rfl
    · rw [if_pos (by omega), if_neg kept]
      rfl
  outside position beyond := by
    rw [getElem?_moveForward cells inside short, if_neg beyond]

theorem rearranged_moveBack (cells : Vector UInt8 size) (inside : start + length ≤ size)
    (short : distance ≤ length) :
    Rearranged cells (moveBack cells start length distance) start length
      (fromAbove? length distance) where
  inside offset within := by
    rw [getElem?_moveBack cells inside short, if_pos (by omega), fromAbove?]
    by_cases kept : offset + distance < length
    · rw [if_pos (by omega), if_pos kept, Nat.add_assoc]
      rfl
    · rw [if_neg (by omega), if_neg kept]
      rfl
  outside position beyond := by
    rw [getElem?_moveBack cells inside short, if_neg beyond]

/-- Rows that are rearranged one after the other do not disturb each other. -/
theorem getElem?_rows (change : Vector UInt8 size → Nat → Vector UInt8 size) (count width : Nat)
    (rearranged : ∀ cells y, y < count →
      Rearranged cells (change cells (y * width)) (y * width) width origin?)
    (cells : Vector UInt8 size) :
    (∀ x y, x < width → y < count →
      ((List.range count).foldl (fun cells y => change cells (y * width)) cells)[y * width + x]? =
        ((origin? x).map fun origin => cells[y * width + origin]?).getD (some 0)) ∧
      ∀ position, count * width ≤ position →
        ((List.range count).foldl (fun cells y => change cells (y * width)) cells)[position]? =
          cells[position]? := by
  induction count with
  | zero => exact ⟨fun _ _ _ none => absurd none (Nat.not_lt_zero _), fun _ _ => rfl⟩
  | succ count ih =>
    obtain ⟨above, below⟩ := ih fun cells y low => rearranged cells y (Nat.lt_succ_of_lt low)
    have last := rearranged
      ((List.range count).foldl (fun cells y => change cells (y * width)) cells) count
      (Nat.lt_succ_self count)
    rw [List.range_succ, List.foldl_append, List.foldl_cons, List.foldl_nil]
    constructor
    · intro x y column row
      rcases Nat.lt_succ_iff_lt_or_eq.mp row with earlier | same
      · have rowEnd := Nat.mul_le_mul_right width (Nat.succ_le_of_lt earlier)
        rw [Nat.succ_mul] at rowEnd
        rw [last.outside _ (by omega), above x y column earlier]
      · subst same
        rw [last.inside x column]
        cases origin? x with
        | none => rfl
        | some origin => exact below _ (Nat.le_add_right _ _)
    · intro position outside
      rw [Nat.succ_mul] at outside
      rw [last.outside position (by omega), below position (by omega)]

end Cells

namespace Screen

/-- Gives every active pixel a new byte by its column and row. -/
def repaint (screen : Screen) (color : Nat → Nat → UInt8) : Screen :=
  { screen with
    cells := screen.cells.mapIdx fun position old =>
      if position < screen.resolution.area then
        color (position % screen.width) (position / screen.width)
      else old
    dirty := true }

theorem cell_repaint (screen : Screen) (color : Nat → Nat → UInt8) (position : Nat)
    (stored : position < screenCapacity) :
    (screen.repaint color).cell position =
      (if position < screen.resolution.area then
        color (position % screen.width) (position / screen.width)
      else screen.cell position) := by
  simp [cell, repaint, stored]

theorem position_stored (screen : Screen) {x y : Nat} (column : x < screen.width)
    (row : y < screen.height) : y * screen.width + x < screenCapacity :=
  Nat.lt_of_lt_of_le (Resolution.position_lt_area column row) (area_le_capacity screen.resolution)

theorem shade_repaint (screen : Screen) (color : Nat → Nat → UInt8) {x y : Nat}
    (column : x < screen.width) (row : y < screen.height) :
    (screen.repaint color).shade x y = color x y := by
  have active := Resolution.position_lt_area column row
  have stored : y * screen.resolution.width + x < screenCapacity := screen.position_stored column row
  rw [shade_eq_cell (screen.repaint color) column row]
  change (screen.repaint color).cell (y * screen.resolution.width + x) = color x y
  rw [cell_repaint _ _ _ stored, if_pos active, width,
    Resolution.position_mod_width y column, Resolution.position_div_width y column]

theorem getElem?_active (screen : Screen) {x y : Nat} (column : x < screen.width)
    (row : y < screen.height) :
    screen.cells[y * screen.width + x]? = some (screen.shade x y) := by
  rw [shade_eq_cell screen column row, cell,
    Vector.getElem?_eq_getElem (screen.position_stored column row), Option.getD_some]

/-- Every active position is that of a pixel. -/
theorem exists_pixel_of_lt_area (screen : Screen) (active : position < screen.resolution.area) :
    ∃ x y, x < screen.width ∧ y < screen.height ∧ y * screen.width + x = position := by
  have positive : 0 < screen.width := screen.resolution.width_pos
  refine ⟨position % screen.width, position / screen.width, Nat.mod_lt _ positive,
    Nat.div_lt_of_lt_mul active, ?_⟩
  rw [Nat.mul_comm]
  exact Nat.div_add_mod position screen.width

/-- A new storage is a new painting if it keeps what is past the active area. -/
theorem eq_repaint (screen : Screen) {cells : Vector UInt8 screenCapacity} {color : Nat → Nat → UInt8}
    (painted : ∀ x y, x < screen.width → y < screen.height →
      cells[y * screen.width + x]? = some (color x y))
    (rest : ∀ position, screen.resolution.area ≤ position → cells[position]? = screen.cells[position]?) :
    { screen with cells, dirty := true } = screen.repaint color := by
  have same : cells = (screen.repaint color).cells := by
    apply Vector.ext
    intro position stored
    apply Option.some_inj.mp
    rw [← Vector.getElem?_eq_getElem stored, ← Vector.getElem?_eq_getElem stored]
    by_cases active : position < screen.resolution.area
    · obtain ⟨x, y, column, row, rfl⟩ := screen.exists_pixel_of_lt_area active
      rw [painted x y column row, ← shade_repaint screen color column row]
      exact ((screen.repaint color).getElem?_active column row).symm
    · rw [rest position (Nat.not_lt.mp active)]
      simp [repaint, active]
  rw [same]
  rfl

theorem repaint_congr (screen : Screen) {first last : Nat → Nat → UInt8}
    (same : ∀ x y, x < screen.width → y < screen.height → first x y = last x y) :
    screen.repaint first = screen.repaint last := by
  apply screen.eq_repaint
  · intro x y column row
    rw [← same x y column row, ← shade_repaint screen first column row]
    exact (screen.repaint first).getElem?_active column row
  · intro position outside
    simp [Nat.not_lt.mpr outside]

/-- Only the last of two paintings is seen. -/
theorem repaint_repaint (screen : Screen) (first last : Nat → Nat → UInt8) :
    (screen.repaint first).repaint last = screen.repaint last := by
  apply screen.eq_repaint
  · intro x y column row
    rw [← shade_repaint (screen.repaint first) last column row]
    exact ((screen.repaint first).repaint last).getElem?_active column row
  · intro position outside
    simp [repaint, Nat.not_lt.mpr outside, Function.comp_def]

theorem rowEnd_le (screen : Screen) (row : y < screen.height) :
    y * screen.width + screen.width ≤ screenCapacity := by
  have positive : 0 < screen.width := screen.resolution.width_pos
  have last := screen.position_stored (Nat.sub_lt positive Nat.one_pos) row
  omega

/-- Each row is painted by where its own bytes come from. -/
theorem eachRow_eq (screen : Screen)
    {change : Vector UInt8 screenCapacity → Nat → Vector UInt8 screenCapacity}
    {origin? : Nat → Option Nat}
    (rearranged : ∀ cells start, start + screen.width ≤ screenCapacity →
      Cells.Rearranged cells (change cells start) start screen.width origin?)
    (within : ∀ x origin, x < screen.width → origin? x = some origin → origin < screen.width) :
    { screen with cells := screen.eachRow change, dirty := true } =
      screen.repaint fun x y => ((origin? x).map fun origin => screen.shade origin y).getD 0 := by
  obtain ⟨painted, rest⟩ := Cells.getElem?_rows change screen.height screen.width
    (fun cells y row => rearranged cells _ (screen.rowEnd_le row)) screen.cells
  apply eq_repaint
  · intro x y column row
    rw [eachRow, painted x y column row]
    cases found : origin? x with
    | none => rfl
    | some origin => exact screen.getElem?_active (within x origin column found) row
  · intro position outside
    apply rest
    rw [Nat.mul_comm]
    exact outside

theorem scrollLeft_eq (screen : Screen) (columns : Nat) :
    screen.scrollLeft columns = screen.repaint fun x y =>
      if x + columns < screen.width then screen.shade (x + columns) y else 0 := by
  have painted := screen.eachRow_eq
    (fun cells start inside => Cells.rearranged_moveBack cells inside (Nat.min_le_right columns _))
    fun _ _ _ found => Cells.fromAbove?_lt found
  refine painted.trans (screen.repaint_congr ?_)
  intro x y column row
  by_cases kept : x + columns < screen.width
  · rw [if_pos kept, Cells.fromAbove?, if_pos (by omega), Nat.min_eq_left (by omega)]
    rfl
  · rw [if_neg kept, Cells.fromAbove?, if_neg (by omega)]
    rfl

theorem scrollRight_eq (screen : Screen) (columns : Nat) :
    screen.scrollRight columns = screen.repaint fun x y =>
      if columns ≤ x then screen.shade (x - columns) y else 0 := by
  have painted := screen.eachRow_eq
    (fun cells start inside => Cells.rearranged_moveForward cells inside (Nat.min_le_right columns _))
    fun _ _ column found => Cells.fromBelow?_lt found column
  refine painted.trans (screen.repaint_congr ?_)
  intro x y column row
  by_cases kept : columns ≤ x
  · rw [if_pos kept, Cells.fromBelow?, if_pos (by omega), Nat.min_eq_left (by omega)]
    rfl
  · rw [if_neg kept, Cells.fromBelow?, if_neg (by omega)]
    rfl

/-- A whole number of rows moves each byte to its own column. -/
theorem scrollDown_eq (screen : Screen) (rows : Nat) :
    screen.scrollDown rows = screen.repaint fun x y =>
      if rows ≤ y then screen.shade x (y - rows) else 0 := by
  have short : min rows screen.height * screen.width ≤ screen.resolution.area := by
    rw [Resolution.area, Nat.mul_comm]
    exact Nat.mul_le_mul_left _ (Nat.min_le_right _ _)
  have inside : 0 + screen.resolution.area ≤ screenCapacity := by
    rw [Nat.zero_add]
    exact area_le_capacity screen.resolution
  have moved := Cells.getElem?_moveForward screen.cells inside short
  apply eq_repaint
  · intro x y column row
    have active : y * screen.width + x < screen.resolution.area :=
      Resolution.position_lt_area column row
    rw [moved, if_pos (by omega), Nat.zero_add]
    by_cases kept : rows ≤ y
    · have stays := Nat.mul_le_mul_right screen.width kept
      rw [Nat.min_eq_left (by omega), if_neg (by omega), if_pos kept,
        ← screen.getElem?_active column (by omega), Nat.sub_mul]
      congr 1
      omega
    · have above := Nat.mul_le_mul_right screen.width
        (Nat.succ_le_of_lt (Nat.lt_min.mpr ⟨Nat.not_le.mp kept, row⟩))
      rw [Nat.succ_mul] at above
      rw [if_pos (by omega), if_neg kept]
  · intro position outside
    rw [moved, if_neg (by omega)]

end Screen

end Chip8
