import Mathlib.Data.List.Dedup
import Mathlib.Data.List.Nodup
import Mathlib.Data.List.ProdSigma
import Chip8.Host.Part

/-! The dots of a sprite. A byte string is a sprite of either size; which of its
dots are set is read off its bytes by their number, and no dot is listed twice. -/
namespace Chip8

namespace Sprite

theorem mem_rowDots_iff {dot : Dot} : dot ∈ rowDots width bits row ↔
    dot.row = row ∧ dot.column < width ∧ bits.testBit (width - 1 - dot.column) = true := by
  constructor
  · intro member
    obtain ⟨column, kept, same⟩ := List.mem_map.mp member
    obtain ⟨inside, lit⟩ := List.mem_filter.mp kept
    subst same
    exact ⟨rfl, List.mem_range.mp inside, lit⟩
  · rintro ⟨same, inside, lit⟩
    subst same
    exact List.mem_map.mpr ⟨dot.column, List.mem_filter.mpr ⟨List.mem_range.mpr inside, lit⟩, rfl⟩

theorem nodup_rowDots (width bits row : Nat) : (rowDots width bits row).Nodup := by
  apply List.Nodup.map
  · intro first last same
    exact congrArg Dot.column same
  · exact List.nodup_range.filter _

/-- No dot is listed twice: the rows have different numbers. -/
theorem nodup_ofRows (width : Nat) (rows : List Nat) : (ofRows width rows).Nodup := by
  apply List.nodup_flatMap.mpr
  refine ⟨fun row _ => nodup_rowDots width row.1 row.2, ?_⟩
  have numbers : (rows.zipIdx.map Prod.snd).Nodup := by
    rw [List.zipIdx_map_snd]
    exact List.nodup_range'
  apply (List.pairwise_map.mp numbers).imp
  intro first last apart dot inFirst inLast
  exact apart ((mem_rowDots_iff.mp inFirst).1.symm.trans (mem_rowDots_iff.mp inLast).1)

/-- The dots of a sprite whose rows are known one by one. -/
theorem mem_ofRows_iff {rows : List Nat} {count : Nat} {bits : Nat → Nat}
    (listed : ∀ row, rows[row]? = if row < count then some (bits row) else none) {dot : Dot} :
    dot ∈ ofRows width rows ↔ (dot.column < width ∧ dot.row < count) ∧
      (bits dot.row).testBit (width - 1 - dot.column) = true := by
  constructor
  · intro member
    obtain ⟨⟨found, row⟩, numbered, inRow⟩ := List.mem_flatMap.mp member
    obtain ⟨same, inside, lit⟩ := mem_rowDots_iff.mp inRow
    subst same
    have entry := listed dot.row
    rw [List.mem_zipIdx_iff_getElem?.mp numbered] at entry
    split at entry
    · rename_i below
      cases entry
      exact ⟨⟨inside, below⟩, lit⟩
    · cases entry
  · rintro ⟨⟨inside, below⟩, lit⟩
    have entry : rows[dot.row]? = some (bits dot.row) := (listed dot.row).trans (if_pos below)
    exact List.mem_flatMap.mpr ⟨(bits dot.row, dot.row), List.mem_zipIdx_iff_getElem?.mpr entry,
      mem_rowDots_iff.mpr ⟨rfl, inside, lit⟩⟩

end Sprite

/-- One drawing of a sprite of either size. -/
structure Stroke where
  big : Bool
  bytes : List UInt8
  placement : Placement

namespace Stroke

def call (stroke : Stroke) : ScreenCall :=
  if stroke.big then .drawBig stroke.bytes stroke.placement else .draw stroke.bytes stroke.placement

def sprite (stroke : Stroke) : Sprite :=
  if stroke.big then .bigOfBytes stroke.bytes else .ofBytes stroke.bytes

/-- The rows that are drawn, blank ones among them. -/
def rows (stroke : Stroke) : Nat :=
  if stroke.big then min 16 ((stroke.bytes.length + 1) / 2) else stroke.bytes.length

/-- A byte of the sprite; one that is missing counts as zero. -/
def byte (stroke : Stroke) (position : Nat) : Nat := (stroke.bytes[position]?.getD 0).toNat

/-- The number of dots, set or not, in each row. -/
def columns (stroke : Stroke) : Nat := if stroke.big then 16 else 8

/-- The dots of a row as the bits of a number, the leftmost one highest. -/
def bits (stroke : Stroke) (row : Nat) : Nat :=
  if stroke.big then stroke.byte (2 * row) * 0x100 + stroke.byte (2 * row + 1) else stroke.byte row

def isSet (stroke : Stroke) (dot : Dot) : Bool :=
  (stroke.bits dot.row).testBit (stroke.columns - 1 - dot.column)

/-- All dots, set or not. -/
def dots (stroke : Stroke) : List Dot :=
  (List.range stroke.columns ×ˢ List.range stroke.rows).map fun place => ⟨place.1, place.2⟩

theorem mem_dots {stroke : Stroke} {dot : Dot} :
    dot ∈ stroke.dots ↔ dot.column < stroke.columns ∧ dot.row < stroke.rows := by
  constructor
  · intro member
    obtain ⟨⟨column, row⟩, inside, same⟩ := List.mem_map.mp member
    subst same
    exact (List.mem_product.mp inside).imp List.mem_range.mp List.mem_range.mp
  · intro inside
    refine List.mem_map.mpr ⟨(dot.column, dot.row), List.mem_product.mpr ?_, rfl⟩
    exact inside.imp List.mem_range.mpr List.mem_range.mpr

theorem nodup_dots (stroke : Stroke) : stroke.dots.Nodup := by
  apply (List.nodup_range.product List.nodup_range).map
  intro first last same
  injection same with column row
  exact Prod.ext column row

theorem getElem?_pairs (bytes : List UInt8) (row : Nat) :
    (Sprite.pairs bytes)[row]? =
      if row < (bytes.length + 1) / 2 then
        some ((bytes[2 * row]?.getD 0).toNat * 0x100 + (bytes[2 * row + 1]?.getD 0).toNat)
      else none := by
  induction bytes using Sprite.pairs.induct generalizing row with
  | case1 high low rest ih =>
    cases row with
    | zero => simp [Sprite.pairs]
    | succ row =>
      rw [Sprite.pairs, List.getElem?_cons_succ, ih]
      have inside : row < (rest.length + 1) / 2 ↔ row + 1 < ((high :: low :: rest).length + 1) / 2 := by
        simp only [List.length_cons]
        omega
      simp only [inside]
      rfl
  | case2 high => cases row <;> simp [Sprite.pairs]
  | case3 => simp [Sprite.pairs]

/-- The rows of either size as numbers. -/
def lines (stroke : Stroke) : List Nat :=
  if stroke.big then (Sprite.pairs stroke.bytes).take 16 else stroke.bytes.map UInt8.toNat

theorem sprite_eq (stroke : Stroke) : stroke.sprite = Sprite.ofRows stroke.columns stroke.lines := by
  unfold sprite columns lines
  split
  · rfl
  · rfl

theorem getElem?_lines (stroke : Stroke) (row : Nat) :
    stroke.lines[row]? = if row < stroke.rows then some (stroke.bits row) else none := by
  unfold lines rows bits
  split
  · rw [List.getElem?_take, getElem?_pairs]
    by_cases high : row < 16
    · simp only [high, if_true, Nat.lt_min, true_and]
      rfl
    · simp only [high, if_false, Nat.lt_min, false_and]
  · rw [List.getElem?_map]
    by_cases present : row < stroke.bytes.length
    · simp [byte, present]
    · simp [present]

/-- The dots that are drawn are the set ones. -/
theorem mem_sprite_iff {stroke : Stroke} {dot : Dot} :
    dot ∈ stroke.sprite ↔ dot ∈ stroke.dots ∧ stroke.isSet dot = true := by
  rw [sprite_eq, mem_dots]
  exact Sprite.mem_ofRows_iff stroke.getElem?_lines

theorem columns_le (stroke : Stroke) : stroke.columns ≤ 16 := by
  unfold columns
  split
  · exact Nat.le_refl 16
  · decide

theorem nodup_sprite (stroke : Stroke) : stroke.sprite.Nodup := by
  rw [sprite_eq]
  exact Sprite.nodup_ofRows _ _

theorem sprite_perm (stroke : Stroke) : stroke.sprite.Perm (stroke.dots.filter stroke.isSet) := by
  apply (List.perm_ext_iff_of_nodup stroke.nodup_sprite (stroke.nodup_dots.filter _)).mpr
  intro dot
  rw [mem_sprite_iff, List.mem_filter]

end Stroke

end Chip8
