import Chip8.Proofs.General
import Chip8.Proofs.Screen.StorageInvariant

/-! Scrolling, pixel by pixel and row by row. In each direction a pixel comes from
one other pixel, or from past the edge, where all are off; two scrolls lead back to
the same pixel as one that goes as far as both. -/
namespace Chip8

/-- The directions in which a screen scrolls. -/
inductive Heading where
  | down
  | left
  | right

namespace Heading

def call (heading : Heading) (amount : Nat) : ScreenCall :=
  match heading with
  | down => .scrollDown amount
  | left => .scrollLeft amount
  | right => .scrollRight amount

/-- The column and the row that a pixel comes from, if they are on the screen. -/
def origin? (heading : Heading) (resolution : Resolution) (amount x y : Nat) : Option (Nat × Nat) :=
  match heading with
  | down => if amount ≤ y then some (x, y - amount) else none
  | left => if x + amount < resolution.width then some (x + amount, y) else none
  | right => if amount ≤ x then some (x - amount, y) else none

variable {heading : Heading} {resolution : Resolution} {amount x y : Nat} {place : Nat × Nat}

theorem origin?_active (found : heading.origin? resolution amount x y = some place)
    (column : x < resolution.width) (row : y < resolution.height) :
    place.1 < resolution.width ∧ place.2 < resolution.height := by
  cases heading with
  | down =>
    obtain ⟨_, same⟩ := Option.ite_some_none_eq_some.mp found
    subst same
    exact ⟨column, Nat.lt_of_le_of_lt (Nat.sub_le _ _) row⟩
  | left =>
    obtain ⟨inside, same⟩ := Option.ite_some_none_eq_some.mp found
    subst same
    exact ⟨inside, row⟩
  | right =>
    obtain ⟨_, same⟩ := Option.ite_some_none_eq_some.mp found
    subst same
    exact ⟨Nat.lt_of_le_of_lt (Nat.sub_le _ _) column, row⟩

/-- What came from past the edge at the first step came from past it at both. -/
theorem origin?_bind (heading : Heading) (resolution : Resolution) (first last x y : Nat) :
    ((heading.origin? resolution last x y).bind fun place =>
      heading.origin? resolution first place.1 place.2) =
        heading.origin? resolution (first + last) x y := by
  cases heading with
  | down =>
    simp only [origin?]
    by_cases near : last ≤ y
    · have further : first ≤ y - last ↔ first + last ≤ y := by omega
      rw [if_pos near, Option.bind_some]
      simp only [further, Nat.sub_sub, Nat.add_comm last]
    · rw [if_neg near, if_neg (by omega), Option.bind_none]
  | left =>
    simp only [origin?]
    by_cases near : x + last < resolution.width
    · rw [if_pos near, Option.bind_some]
      simp only [Nat.add_assoc, Nat.add_comm last]
    · rw [if_neg near, if_neg (by omega), Option.bind_none]
  | right =>
    simp only [origin?]
    by_cases near : last ≤ x
    · have further : first ≤ x - last ↔ first + last ≤ x := by omega
      rw [if_pos near, Option.bind_some]
      simp only [further, Nat.sub_sub, Nat.add_comm last]
    · rw [if_neg near, if_neg (by omega), Option.bind_none]

end Heading

namespace Screen

def scroll (screen : Screen) (heading : Heading) (amount : Nat) : Screen :=
  (screen.perform (heading.call amount)).2

theorem scroll_eq (screen : Screen) (heading : Heading) (amount : Nat) :
    screen.scroll heading amount = screen.repaint fun x y =>
      ((heading.origin? screen.resolution amount x y).map fun place =>
        screen.shade place.1 place.2).getD 0 := by
  cases heading with
  | down =>
    refine (screen.scrollDown_eq amount).trans (screen.repaint_congr fun x y _ _ => ?_)
    simp only [Heading.origin?, Option.getD_map_guard]
  | left =>
    refine (screen.scrollLeft_eq amount).trans (screen.repaint_congr fun x y _ _ => ?_)
    simp only [Heading.origin?, Option.getD_map_guard]
    rfl
  | right =>
    refine (screen.scrollRight_eq amount).trans (screen.repaint_congr fun x y _ _ => ?_)
    simp only [Heading.origin?, Option.getD_map_guard]

variable (screen : Screen) (heading : Heading) (amount : Nat) {x y : Nat}

theorem resolution_scroll : (screen.scroll heading amount).resolution = screen.resolution := by
  rw [scroll_eq]
  rfl

theorem shade_scroll (column : x < screen.width) (row : y < screen.height) :
    (screen.scroll heading amount).shade x y =
      ((heading.origin? screen.resolution amount x y).map fun place =>
        screen.shade place.1 place.2).getD 0 := by
  rw [scroll_eq, shade_repaint screen _ column row]

theorem pixel_scroll (column : x < screen.width) (row : y < screen.height) :
    (screen.scroll heading amount).pixel x y =
      ((heading.origin? screen.resolution amount x y).map fun place =>
        screen.pixel place.1 place.2).getD false := by
  rw [pixel, shade_scroll screen heading amount column row]
  cases heading.origin? screen.resolution amount x y with
  | none => rfl
  | some place => rfl

theorem cell_scroll (outside : screen.resolution.area ≤ position) :
    (screen.scroll heading amount).cell position = screen.cell position := by
  rw [scroll_eq]
  by_cases stored : position < screenCapacity
  · rw [cell_repaint _ _ _ stored, if_neg (Nat.not_lt.mpr outside)]
  · exact cell_past _ _ stored

theorem scroll_scroll (first last : Nat) :
    (screen.scroll heading first).scroll heading last = screen.scroll heading (first + last) := by
  rw [scroll_eq (screen.scroll heading first), resolution_scroll, scroll_eq screen heading (first + last)]
  have repainted : ∀ color, (screen.scroll heading first).repaint color = screen.repaint color := by
    intro color
    rw [scroll_eq, repaint_repaint]
  rw [repainted]
  apply screen.repaint_congr
  intro x y column row
  rw [← heading.origin?_bind]
  cases found : heading.origin? screen.resolution last x y with
  | none => rfl
  | some place =>
    obtain ⟨placeColumn, placeRow⟩ := Heading.origin?_active found column row
    exact screen.shade_scroll heading first placeColumn placeRow

theorem length_row (y : Nat) : (screen.row y).length = screen.width := by
  rw [row, List.length_map, List.length_range]

theorem getElem_row (column : x < (screen.row y).length) : (screen.row y)[x] = screen.pixel x y := by
  simp only [row, List.getElem_map, List.getElem_range]

theorem width_scroll : (screen.scroll heading amount).width = screen.width :=
  congrArg Resolution.width (screen.resolution_scroll heading amount)

theorem row_scrollLeft (active : y < screen.height) :
    (screen.scroll .left amount).row y =
      (screen.row y).drop amount ++ List.replicate (min amount screen.width) false := by
  apply List.ext_getElem
  · simp only [length_row, width_scroll, List.length_append, List.length_drop, List.length_replicate]
    omega
  · intro x inside _
    rw [getElem_row]
    rw [length_row, width_scroll] at inside
    have pixel := (screen.pixel_scroll .left amount inside active).trans
      (Option.getD_map_guard (x + amount, y) _ false)
    rw [pixel]
    by_cases kept : x + amount < screen.width
    · have dropped : x < ((screen.row y).drop amount).length := by
        rw [List.length_drop, length_row]
        omega
      rw [List.getElem_append_left dropped, List.getElem_drop, getElem_row, Nat.add_comm amount x]
      exact if_pos kept
    · have blank : ((screen.row y).drop amount).length ≤ x := by
        rw [List.length_drop, length_row]
        omega
      rw [List.getElem_append_right blank, List.getElem_replicate]
      exact if_neg kept

theorem row_scrollRight (active : y < screen.height) :
    (screen.scroll .right amount).row y =
      List.replicate (min amount screen.width) false ++ (screen.row y).take (screen.width - amount) := by
  apply List.ext_getElem
  · simp only [length_row, width_scroll, List.length_append, List.length_take, List.length_replicate]
    omega
  · intro x inside _
    rw [getElem_row]
    rw [length_row, width_scroll] at inside
    have pixel := (screen.pixel_scroll .right amount inside active).trans
      (Option.getD_map_guard (x - amount, y) _ false)
    rw [pixel]
    by_cases kept : amount ≤ x
    · have short : min amount screen.width = amount := Nat.min_eq_left (by omega)
      have moved : (List.replicate (min amount screen.width) false).length ≤ x := by
        rw [List.length_replicate, short]
        exact kept
      rw [List.getElem_append_right moved, List.getElem_take, getElem_row]
      simp only [List.length_replicate, short]
      exact if_pos kept
    · have blank : x < (List.replicate (min amount screen.width) false).length := by
        rw [List.length_replicate]
        omega
      rw [List.getElem_append_left blank, List.getElem_replicate]
      exact if_neg kept

theorem row_scrollDown (active : y < screen.height) :
    (screen.scroll .down amount).row y =
      if amount ≤ y then screen.row (y - amount) else List.replicate screen.width false := by
  have pixel := fun x (column : x < screen.width) =>
    (screen.pixel_scroll .down amount column active).trans
      (Option.getD_map_guard (x, y - amount) _ false)
  rw [row, width_scroll]
  split
  · rename_i kept
    apply List.map_congr_left
    intro x column
    exact (pixel x (List.mem_range.mp column)).trans (if_pos kept)
  · rename_i blank
    apply List.eq_replicate_iff.mpr
    refine ⟨by rw [List.length_map, List.length_range], ?_⟩
    intro value member
    obtain ⟨x, column, same⟩ := List.mem_map.mp member
    rw [← same]
    exact (pixel x (List.mem_range.mp column)).trans (if_neg blank)

/-- What scrolling does to a screen, by any amount in any direction. -/
structure ScrollsExactly (screen : Screen) : Prop where
  pixel : ∀ heading amount x y, x < screen.width → y < screen.height →
    (screen.scroll heading amount).pixel x y =
      ((heading.origin? screen.resolution amount x y).map fun place =>
        screen.pixel place.1 place.2).getD false
  shade : ∀ heading amount x y, x < screen.width → y < screen.height →
    (screen.scroll heading amount).shade x y =
      ((heading.origin? screen.resolution amount x y).map fun place =>
        screen.shade place.1 place.2).getD 0
  /-- Each row scrolls by itself to the left and to the right. -/
  leftRow : ∀ amount y, y < screen.height → (screen.scroll .left amount).row y =
    (screen.row y).drop amount ++ List.replicate (min amount screen.width) false
  rightRow : ∀ amount y, y < screen.height → (screen.scroll .right amount).row y =
    List.replicate (min amount screen.width) false ++ (screen.row y).take (screen.width - amount)
  downRow : ∀ amount y, y < screen.height → (screen.scroll .down amount).row y =
    if amount ≤ y then screen.row (y - amount) else List.replicate screen.width false
  rest : ∀ heading amount position, screen.resolution.area ≤ position →
    (screen.scroll heading amount).cell position = screen.cell position
  resolution : ∀ heading amount, (screen.scroll heading amount).resolution = screen.resolution
  dirty : ∀ heading amount, (screen.scroll heading amount).dirty = true
  again : ∀ heading first last,
    (screen.scroll heading first).scroll heading last = screen.scroll heading (first + last)

theorem scrolls_exactly (screen : Screen) : screen.ScrollsExactly where
  pixel heading amount _ _ column row := screen.pixel_scroll heading amount column row
  shade heading amount _ _ column row := screen.shade_scroll heading amount column row
  leftRow amount _ active := screen.row_scrollLeft amount active
  rightRow amount _ active := screen.row_scrollRight amount active
  downRow amount _ active := screen.row_scrollDown amount active
  rest heading amount _ outside := screen.cell_scroll heading amount outside
  resolution heading amount := screen.resolution_scroll heading amount
  dirty heading amount := by
    rw [scroll_eq]
    rfl
  again heading first last := screen.scroll_scroll heading first last

end Screen

end Chip8
