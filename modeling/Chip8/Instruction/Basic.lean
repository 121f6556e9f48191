import Chip8.Opcode
import Chip8.Resolution

/-! Instructions, free of their encoding. Where dialects disagree an
instruction carries every operand that one of them reads. -/
namespace Chip8

/-- When the next instruction is skipped. -/
inductive Condition where
  | equalsByte (x : Register) (byte : UInt8)
  | differsByte (x : Register) (byte : UInt8)
  | equals (x y : Register)
  | differs (x y : Register)
  /-- The key numbered by the register is held down. -/
  | held (x : Register)
  | notHeld (x : Register)
deriving DecidableEq

/-- What is computed from two registers and stored in the first. -/
inductive Arithmetic where
  | copy
  | or
  | and
  | xor
  | add
  | subtract
  | shiftRight
  /-- The first register is taken from the second. -/
  | subtractFrom
  | shiftLeft
deriving DecidableEq

inductive Instruction where
  /-- A call to the host's own code, ignored. -/
  | system (address : Address)
  | scrollDown (rows : UInt8)
  | scrollRight
  | scrollLeft
  | clear
  | setResolution (resolution : Resolution)
  | ret
  | exit
  | jump (target : Address)
  | call (target : Address)
  /-- Adds a register to the target: the first one or `x`, by dialect. -/
  | jumpOffset (x : Register) (target : Address)
  | skip (condition : Condition)
  | loadByte (x : Register) (byte : UInt8)
  | addByte (x : Register) (byte : UInt8)
  | arithmetic (operation : Arithmetic) (x y : Register)
  | setIndex (address : Address)
  | addIndex (x : Register)
  | random (x : Register) (mask : UInt8)
  | draw (x y : Register) (rows : UInt8)
  /-- Draws sixteen rows of sixteen dots. -/
  | drawBig (x y : Register)
  | readDelay (x : Register)
  | awaitKey (x : Register)
  | setDelay (x : Register)
  | setSound (x : Register)
  | pointDigit (x : Register)
  | pointBigDigit (x : Register)
  /-- Stores the three decimal digits of a register. -/
  | storeDigits (x : Register)
  | storeRegisters (last : Register)
  | loadRegisters (last : Register)
  | saveFlags (last : Register)
  | restoreFlags (last : Register)
  /-- No instruction of the active table; to execute it is a fault. -/
  | unknown (opcode : Opcode)
deriving DecidableEq

end Chip8
