import Chip8.Screen.Basic

/-! Sprites and how they are drawn. A sprite is the list of its dots; drawing
flips the pixel below each dot. -/
namespace Chip8

structure Dot where
  column : Nat
  row : Nat
deriving DecidableEq

abbrev Sprite := List Dot

namespace Sprite

/-- The dots of one row. The highest of `width` bits is the leftmost dot. -/
def rowDots (width bits row : Nat) : Sprite :=
  ((List.range width).filter fun column => bits.testBit (width - 1 - column)).map
    fun column => ⟨column, row⟩

def ofRows (width : Nat) (rows : List Nat) : Sprite :=
  rows.zipIdx.flatMap fun (bits, row) => rowDots width bits row

/-- Eight dots wide, one byte for each row. -/
def ofBytes (bytes : List UInt8) : Sprite := ofRows 8 (bytes.map UInt8.toNat)

/-- Bytes by pairs, the high byte first; a last one alone is a high byte. -/
def pairs : List UInt8 → List Nat
  | high :: low :: rest => (high.toNat * 0x100 + low.toNat) :: pairs rest
  | [high] => [high.toNat * 0x100]
  | [] => []

/-- Sixteen dots wide and at most sixteen rows high. -/
def bigOfBytes (bytes : List UInt8) : Sprite := ofRows 16 ((pairs bytes).take 16)

end Sprite

/-- Where on the screen a sprite goes, and what happens past the edge. -/
structure Placement where
  x : Nat
  y : Nat
  /-- Drop dots past the edge instead of wrapping them around. -/
  clip : Bool

/-- The cell below a dot. The origin itself always wraps around. -/
def Placement.cell? (placement : Placement) (resolution : Resolution) (dot : Dot) : Option Nat :=
  let column := placement.x % resolution.width + dot.column
  let row := placement.y % resolution.height + dot.row
  if placement.clip && (decide (resolution.width ≤ column) || decide (resolution.height ≤ row)) then
    none
  else some (row % resolution.height * resolution.width + column % resolution.width)

namespace Screen

/-- Flips one pixel, by the position of its byte. -/
def toggle (screen : Screen) (position : Nat) : Screen :=
  { screen with
    cells := screen.cells.setIfInBounds position (screen.cell position ^^^ 1)
    dirty := true }

theorem cell_toggle (screen : Screen) (position other : Nat) (stored : other < screenCapacity) :
    (screen.toggle position).cell other =
      (if position = other then screen.cell other ^^^ 1 else screen.cell other) := by
  by_cases same : position = other
  · subst same
    simp [toggle, cell, stored]
  · simp [toggle, cell, stored, same]

structure Drawing where
  screen : Screen
  /-- Some pixel was switched off. -/
  collision : Bool
deriving DecidableEq

/-- Flips one pixel more. -/
def Drawing.flip (drawing : Drawing) (position : Nat) : Drawing :=
  ⟨drawing.screen.toggle position, drawing.collision || drawing.screen.cell position != 0⟩

def draw (screen : Screen) (sprite : Sprite) (placement : Placement) : Drawing :=
  (sprite.filterMap (placement.cell? screen.resolution)).foldl Drawing.flip ⟨screen, false⟩

end Screen

end Chip8
