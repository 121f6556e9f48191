import Chip8.Resolution

/-! The screen. Its storage always has room for the larger resolution; the
active pixels come first in it, row by row. -/
namespace Chip8

/-- Pixels at the larger resolution. -/
abbrev screenCapacity : Nat := 8192

structure Screen where
  /-- One byte for each pixel: one if it is on, zero if it is off. -/
  cells : Vector UInt8 screenCapacity
  resolution : Resolution
  /-- Something may have changed since the screen was last shown. -/
  dirty : Bool
deriving DecidableEq

theorem area_le_capacity (resolution : Resolution) : resolution.area ≤ screenCapacity := by
  cases resolution <;> simp [Resolution.area, Resolution.width, Resolution.height, screenCapacity]

namespace Screen

/-- All pixels off, and not shown yet. -/
def blank (resolution : Resolution) : Screen :=
  ⟨Vector.replicate screenCapacity 0, resolution, true⟩

def clear (screen : Screen) : Screen := blank screen.resolution

/-- Clears the screen even when the resolution stays the same. -/
def setResolution (_ : Screen) (resolution : Resolution) : Screen := blank resolution

def width (screen : Screen) : Nat := screen.resolution.width

def height (screen : Screen) : Nat := screen.resolution.height

/-- A byte of the storage; past its end all are zero. -/
def cell (screen : Screen) (position : Nat) : UInt8 := screen.cells[position]?.getD 0

/-- The byte of a pixel; beyond the active area all are off. -/
def shade (screen : Screen) (x y : Nat) : UInt8 :=
  if x < screen.width ∧ y < screen.height then screen.cell (y * screen.width + x) else 0

/-- Whether a pixel is on. -/
def pixel (screen : Screen) (x y : Nat) : Bool := screen.shade x y != 0

theorem shade_eq_cell (screen : Screen) {x y : Nat}
    (column : x < screen.width) (row : y < screen.height) :
    screen.shade x y = screen.cell (y * screen.width + x) := by
  simp [shade, column, row]

theorem cell_blank (resolution : Resolution) (position : Nat) :
    (blank resolution).cell position = 0 := by
  by_cases stored : position < screenCapacity <;> simp [blank, cell, stored]

theorem pixel_blank (resolution : Resolution) (x y : Nat) :
    (blank resolution).pixel x y = false := by
  simp [pixel, shade, cell_blank]

/-- Whether each active pixel is on, row by row. -/
def pixels (screen : Screen) : Array Bool :=
  (screen.cells.toArray.take screen.resolution.area).map (· != 0)

def row (screen : Screen) (y : Nat) : List Bool :=
  (List.range screen.width).map fun x => screen.pixel x y

def forceRefresh (screen : Screen) : Screen := { screen with dirty := true }

/-- Asks whether the screen changed and counts it as shown. -/
def takeUpdated (screen : Screen) : Bool × Screen := (screen.dirty, { screen with dirty := false })

/-- What came of one attempt to show the screen. -/
structure Refresh (ε : Type) where
  /-- What the painter was given, if it was called. -/
  seen : Option Screen
  failure : Option ε
  screen : Screen

/-- Calls the painter if there is something to show. Only a painter that does
not fail leaves the screen shown. -/
def refresh {ε : Type} (screen : Screen) (paint : Screen → Option ε) : Refresh ε :=
  if screen.dirty then
    match paint screen with
    | none => ⟨some screen, none, { screen with dirty := false }⟩
    | some failure => ⟨some screen, some failure, screen⟩
  else ⟨none, none, screen⟩

end Screen

end Chip8
