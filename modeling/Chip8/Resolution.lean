/-! The two sizes of the screen. -/
namespace Chip8

inductive Resolution where
  | low
  | high
deriving DecidableEq

namespace Resolution

def width : Resolution → Nat
  | low => 64
  | high => 128

def height : Resolution → Nat
  | low => 32
  | high => 64

/-- The number of pixels. -/
def area (resolution : Resolution) : Nat := resolution.width * resolution.height

theorem width_pos (resolution : Resolution) : 0 < resolution.width := by
  cases resolution <;> decide

theorem height_pos (resolution : Resolution) : 0 < resolution.height := by
  cases resolution <;> decide

/-- A pixel's position in row order lies in the area, and gives back both of its
coordinates. -/
theorem position_lt_area {resolution : Resolution} {x y : Nat}
    (column : x < resolution.width) (row : y < resolution.height) :
    y * resolution.width + x < resolution.area := by
  cases resolution <;> simp only [width, height, area] at * <;> omega

theorem position_mod_width {resolution : Resolution} {x : Nat} (y : Nat)
    (column : x < resolution.width) : (y * resolution.width + x) % resolution.width = x := by
  rw [Nat.mul_comm, Nat.mul_add_mod, Nat.mod_eq_of_lt column]

theorem position_div_width {resolution : Resolution} {x : Nat} (y : Nat)
    (column : x < resolution.width) : (y * resolution.width + x) / resolution.width = y := by
  have positive : 0 < resolution.width := by omega
  rw [Nat.mul_comm, Nat.mul_add_div positive, Nat.div_eq_of_lt column, Nat.add_zero]

def text (resolution : Resolution) : String :=
  resolution.width.repr ++ "x" ++ resolution.height.repr

end Resolution

end Chip8
