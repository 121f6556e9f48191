import Chip8.Resolution

/-! The two instruction sets, and the points on which interpreters of one
instruction set may still disagree. -/
namespace Chip8

inductive Mode where
  | standard
  /-- Adds instructions, a larger screen and registers that outlive a restart. -/
  | extended
deriving DecidableEq

namespace Mode

def ofExtended (extended : Bool) : Mode := if extended then .extended else .standard

def isExtended (mode : Mode) : Bool := mode = .extended

/-- The size of the screen when a program starts. -/
def resolution : Mode → Resolution
  | standard => .low
  | extended => .high

def text : Mode → String
  | standard => "Chip-8"
  | extended => "Super-Chip"

end Mode

/-- How the instructions behave whose meaning differs between interpreters. -/
structure Dialect where
  /-- Shifts take their operand from the second register, not from the first. -/
  shiftsSecond : Bool
  /-- Bitwise operations clear the flag register. -/
  logicClearsFlag : Bool
  /-- Register transfers leave the index just past the last byte they touched. -/
  transferAdvancesIndex : Bool
  /-- Computed jumps add the register they name, not the first one. -/
  jumpsByNamed : Bool
  /-- Dots past the edge of the screen are dropped instead of wrapped around. -/
  clipsSprites : Bool
deriving DecidableEq

namespace Dialect

def standard : Dialect := ⟨true, true, true, false, false⟩

def extended : Dialect := ⟨false, false, false, true, false⟩

/-- The customary behaviour of a mode. Clipping belongs to no mode. -/
def ofMode (mode : Mode) (clipsSprites : Bool) : Dialect :=
  match mode with
  | .standard => { standard with clipsSprites }
  | .extended => { extended with clipsSprites }

end Dialect

end Chip8
