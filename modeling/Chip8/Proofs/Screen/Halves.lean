import Chip8.Proofs.General
import Chip8.Proofs.Screen.Drawing

/-! Big sprites as two small ones. The bytes at even places are the left half, those at
odd places the right half, and to draw the sprite is to draw one after the other. -/
namespace Chip8

/-- The dot that lies further to the right by the width of a byte. -/
def Dot.right (dot : Dot) : Dot := { dot with column := dot.column + 8 }

theorem Dot.right_inj {first last : Dot} (same : first.right = last.right) : first = last := by
  cases first
  cases last
  injection same with column row
  cases Nat.add_right_cancel column
  cases row
  rfl

namespace Sprite

/-- Sixteen bytes, every other one from the given place on; one that is missing counts
as zero. -/
def half (bytes : List UInt8) (start : Nat) : List UInt8 :=
  (List.range 16).map fun row => bytes[2 * row + start]?.getD 0

theorem mem_half_iff {bytes : List UInt8} {start : Nat} {dot : Dot} :
    dot ∈ ofBytes (half bytes start) ↔ (dot.column < 8 ∧ dot.row < 16) ∧
      (bytes[2 * dot.row + start]?.getD 0).toNat.testBit (7 - dot.column) = true := by
  have listed (row : Nat) : ((half bytes start).map UInt8.toNat)[row]? =
      if row < 16 then some (bytes[2 * row + start]?.getD 0).toNat else none := by
    by_cases inside : row < 16
    · simp [half, inside]
    · simp [half, inside]
  exact mem_ofRows_iff listed

theorem mem_bigOfBytes_iff {bytes : List UInt8} {dot : Dot} :
    dot ∈ bigOfBytes bytes ↔ (dot.column < 16 ∧ dot.row < 16) ∧
      ((bytes[2 * dot.row]?.getD 0).toNat * 0x100 +
        (bytes[2 * dot.row + 1]?.getD 0).toNat).testBit (15 - dot.column) = true := by
  let stroke : Stroke := ⟨true, bytes, ⟨0, 0, false⟩⟩
  have rows : dot.row < stroke.rows ↔ dot.row < 16 ∧ 2 * dot.row < bytes.length := by
    change dot.row < min 16 ((bytes.length + 1) / 2) ↔ _
    omega
  have drawn : dot ∈ stroke.sprite ↔ dot ∈ stroke.dots ∧ stroke.isSet dot = true :=
    Stroke.mem_sprite_iff
  rw [Stroke.mem_dots, rows] at drawn
  refine drawn.trans ⟨fun ⟨⟨column, row, _⟩, lit⟩ => ⟨⟨column, row⟩, lit⟩, ?_⟩
  rintro ⟨⟨column, row⟩, lit⟩
  refine ⟨⟨column, row, ?_⟩, lit⟩
  -- past the last byte all bits are zero
  by_contra missing
  rw [List.getElem?_eq_none (by omega), List.getElem?_eq_none (by omega)] at lit
  simp at lit

/-- The dots of a big sprite lie in one of its halves. -/
theorem mem_bigOfBytes_iff_half {bytes : List UInt8} {dot : Dot} : dot ∈ bigOfBytes bytes ↔
    dot ∈ ofBytes (half bytes 0) ∨ ∃ other ∈ ofBytes (half bytes 1), other.right = dot := by
  rw [mem_bigOfBytes_iff, mem_half_iff]
  constructor
  · rintro ⟨⟨column, row⟩, lit⟩
    rw [UInt8.testBit_pair _ _ column] at lit
    by_cases left : dot.column < 8
    · rw [if_pos left] at lit
      exact .inl ⟨⟨left, row⟩, lit⟩
    · rw [if_neg left] at lit
      refine .inr ⟨⟨dot.column - 8, dot.row⟩, mem_half_iff.mpr ⟨⟨?_, row⟩, lit⟩, ?_⟩
      · change dot.column - 8 < 8
        omega
      · rw [Dot.right, Nat.sub_add_cancel (Nat.not_lt.mp left)]
  · rintro (⟨⟨column, row⟩, lit⟩ | ⟨other, member, same⟩)
    · refine ⟨⟨by omega, row⟩, ?_⟩
      rw [UInt8.testBit_pair _ _ (by omega), if_pos column]
      exact lit
    · obtain ⟨⟨column, row⟩, lit⟩ := mem_half_iff.mp member
      subst same
      have inside : other.column + 8 < 16 := by omega
      refine ⟨⟨inside, row⟩, ?_⟩
      change (_ : Nat).testBit (15 - (other.column + 8)) = true
      rw [UInt8.testBit_pair _ _ inside, if_neg (by omega), Nat.add_sub_cancel]
      exact lit

theorem bigOfBytes_perm (bytes : List UInt8) : (bigOfBytes bytes).Perm
    (ofBytes (half bytes 0) ++ (ofBytes (half bytes 1)).map Dot.right) := by
  have halves : (ofBytes (half bytes 0) ++ (ofBytes (half bytes 1)).map Dot.right).Nodup := by
    refine (nodup_ofRows 8 _).append ((nodup_ofRows 8 _).map fun _ _ => Dot.right_inj) ?_
    intro dot inLeft inRight
    obtain ⟨other, _, same⟩ := List.mem_map.mp inRight
    subst same
    have column : other.column + 8 < 8 := (mem_half_iff.mp inLeft).1.1
    omega
  apply (List.perm_ext_iff_of_nodup (nodup_ofRows 16 _) halves).mpr
  intro dot
  rw [List.mem_append, List.mem_map]
  exact mem_bigOfBytes_iff_half

end Sprite

namespace Placement

/-- Where the right half of a big sprite goes. -/
def right (placement : Placement) (resolution : Resolution) : Placement :=
  { placement with x := placement.x % resolution.width + 8 }

variable {placement : Placement} {resolution : Resolution}

/-- Unless the right half is clipped away, its dots land where they land as dots of the
big sprite. -/
theorem cell?_right (room : placement.clip = false ∨
      placement.x % resolution.width + 8 < resolution.width) (dot : Dot) :
    placement.cell? resolution dot.right = (placement.right resolution).cell? resolution dot := by
  have shifted : placement.x % resolution.width + dot.right.column =
      placement.x % resolution.width + 8 + dot.column := by
    change _ + (dot.column + 8) = _
    omega
  have wrapped :
      ((placement.x % resolution.width + 8) % resolution.width + dot.column) % resolution.width =
        (placement.x % resolution.width + dot.right.column) % resolution.width := by
    rw [Nat.mod_add_mod, shifted]
  rcases room with wrap | narrow
  · simp only [cell?, right, wrap, Bool.false_and, wrapped]
    rfl
  · simp only [cell?, right, Nat.mod_eq_of_lt narrow, shifted]
    rfl

theorem cell?_right_of_past (clip : placement.clip = true)
    (past : resolution.width ≤ placement.x % resolution.width + 8) (dot : Dot) :
    placement.cell? resolution dot.right = none := by
  have beyond : resolution.width ≤ placement.x % resolution.width + dot.right.column :=
    Nat.le_trans past (Nat.add_le_add_left (Nat.le_add_left 8 dot.column) _)
  simp only [cell?, clip, beyond, decide_true, Bool.true_or, Bool.and_self, if_true]

end Placement

namespace Screen

/-- How a big sprite is drawn by its halves. One that is clipped before its right half
starts is drawn by its left half alone. -/
structure DrawsByHalves (screen : Screen) (bytes : List UInt8) (placement : Placement) : Prop where
  both : placement.clip = false ∨ placement.x % screen.width + 8 < screen.width →
    let left := screen.draw (.ofBytes (Sprite.half bytes 0)) placement
    let right :=
      left.screen.draw (.ofBytes (Sprite.half bytes 1)) (placement.right screen.resolution)
    screen.draw (.bigOfBytes bytes) placement = ⟨right.screen, left.collision || right.collision⟩
  left : placement.clip = true → screen.width ≤ placement.x % screen.width + 8 →
    screen.draw (.bigOfBytes bytes) placement =
      screen.draw (.ofBytes (Sprite.half bytes 0)) placement

theorem resolution_draw (screen : Screen) (sprite : Sprite) (placement : Placement) :
    (screen.draw sprite placement).screen.resolution = screen.resolution := by
  rw [screen_draw, resolution_toggleAll]

/-- The dots of the right half may be drawn after all those of the left one. -/
theorem draw_bigOfBytes (screen : Screen) (bytes : List UInt8) (placement : Placement) :
    screen.draw (.bigOfBytes bytes) placement =
      ((Sprite.ofBytes (Sprite.half bytes 1)).filterMap
        (placement.cell? screen.resolution ∘ Dot.right)).foldl Drawing.flip
          (screen.draw (.ofBytes (Sprite.half bytes 0)) placement) := by
  have positions := (Sprite.bigOfBytes_perm bytes).filterMap (placement.cell? screen.resolution)
  rw [List.filterMap_append, List.filterMap_map] at positions
  rw [draw, flips_perm positions, List.foldl_append]
  rfl

/-- On any screen and at any place, a big sprite is drawn by its halves. -/
theorem draws_by_halves (screen : Screen) (bytes : List UInt8) (placement : Placement) :
    screen.DrawsByHalves bytes placement := by
  constructor
  · intro room left right
    have cells : placement.cell? screen.resolution ∘ Dot.right =
        (placement.right screen.resolution).cell? left.screen.resolution := by
      have kept : left.screen.resolution = screen.resolution := resolution_draw _ _ _
      rw [kept]
      exact funext (Placement.cell?_right room)
    rw [draw_bigOfBytes, cells, flips_eq]
    rfl
  · intro clip past
    have cells : placement.cell? screen.resolution ∘ Dot.right = fun _ => none :=
      funext (Placement.cell?_right_of_past clip past)
    rw [draw_bigOfBytes, cells, List.filterMap_none]
    rfl

end Screen

end Chip8
