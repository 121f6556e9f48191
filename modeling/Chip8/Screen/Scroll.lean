import Chip8.Cells
import Chip8.Screen.Basic

/-! Scrolling. Pixels that leave the screen are lost, and pixels that come in
are off. The bytes move inside their storage, in an order in which none is written
over before it is read. -/
namespace Chip8.Screen

/-- Changes the stretches of the active rows from the first row on. -/
def eachRow (screen : Screen)
    (change : Vector UInt8 screenCapacity → Nat → Vector UInt8 screenCapacity) :
    Vector UInt8 screenCapacity :=
  (List.range screen.height).foldl (fun cells y => change cells (y * screen.width)) screen.cells

/-- All rows are one stretch here. -/
def scrollDown (screen : Screen) (rows : Nat) : Screen :=
  let distance := min rows screen.height * screen.width
  { screen with cells := Cells.moveForward screen.cells 0 screen.resolution.area distance, dirty := true }

def scrollLeft (screen : Screen) (columns : Nat) : Screen :=
  let distance := min columns screen.width
  { screen with
    cells := screen.eachRow fun cells start => Cells.moveBack cells start screen.width distance
    dirty := true }

def scrollRight (screen : Screen) (columns : Nat) : Screen :=
  let distance := min columns screen.width
  { screen with
    cells := screen.eachRow fun cells start => Cells.moveForward cells start screen.width distance
    dirty := true }

end Chip8.Screen
