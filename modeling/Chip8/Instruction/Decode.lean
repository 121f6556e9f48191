import Chip8.Instruction.Basic
import Chip8.Mode

/-! From opcodes to instructions. Every opcode decodes; one that the table of
the mode lacks becomes `Instruction.unknown`. -/
namespace Chip8

/-- The operation that the low four bits of a register pair select. -/
def Arithmetic.ofSelector? : Nat → Option Arithmetic
  | 0x0 => some .copy
  | 0x1 => some .or
  | 0x2 => some .and
  | 0x3 => some .xor
  | 0x4 => some .add
  | 0x5 => some .subtract
  | 0x6 => some .shiftRight
  | 0x7 => some .subtractFrom
  | 0xE => some .shiftLeft
  | _ => none

namespace Opcode

/-- Opcodes `0nnn` of extended mode, but for the two that both modes share. -/
def systemExtended (opcode : Opcode) : Instruction :=
  match opcode.word.toNat with
  | 0x00FB => .scrollRight
  | 0x00FC => .scrollLeft
  | 0x00FD => .exit
  | 0x00FE => .setResolution .low
  | 0x00FF => .setResolution .high
  | word => if word / 0x10 = 0x00C then .scrollDown opcode.nibble else .system opcode.address

/-- Opcodes `0nnn`. -/
def systemOrScreen (mode : Mode) (opcode : Opcode) : Instruction :=
  match opcode.word.toNat with
  | 0x00E0 => .clear
  | 0x00EE => .ret
  | _ =>
    match mode with
    | .standard => .system opcode.address
    | .extended => opcode.systemExtended

/-- Opcodes `8xyn`. -/
def arithmetic (opcode : Opcode) : Instruction :=
  match Arithmetic.ofSelector? opcode.nibble.toNat with
  | some operation => .arithmetic operation opcode.x opcode.y
  | none => .unknown opcode

/-- Opcodes `Dxyn`. -/
def drawing (mode : Mode) (opcode : Opcode) : Instruction :=
  match mode with
  | .standard => .draw opcode.x opcode.y opcode.nibble
  | .extended =>
    if opcode.nibble = 0 then .drawBig opcode.x opcode.y
    else .draw opcode.x opcode.y opcode.nibble

/-- Opcodes `Exkk`. -/
def keyTest (opcode : Opcode) : Instruction :=
  match opcode.byte.toNat with
  | 0x9E => .skip (.held opcode.x)
  | 0xA1 => .skip (.notHeld opcode.x)
  | _ => .unknown opcode

/-- Opcodes `Fxkk` that only extended mode has. Flags exist for the first
eight registers alone. -/
def transferExtended (opcode : Opcode) : Instruction :=
  match opcode.byte.toNat with
  | 0x30 => .pointBigDigit opcode.x
  | 0x75 => if opcode.x.val < flagCount then .saveFlags opcode.x else .unknown opcode
  | 0x85 => if opcode.x.val < flagCount then .restoreFlags opcode.x else .unknown opcode
  | _ => .unknown opcode

/-- Opcodes `Fxkk`. -/
def transfer (mode : Mode) (opcode : Opcode) : Instruction :=
  match opcode.byte.toNat with
  | 0x07 => .readDelay opcode.x
  | 0x0A => .awaitKey opcode.x
  | 0x15 => .setDelay opcode.x
  | 0x18 => .setSound opcode.x
  | 0x1E => .addIndex opcode.x
  | 0x29 => .pointDigit opcode.x
  | 0x33 => .storeDigits opcode.x
  | 0x55 => .storeRegisters opcode.x
  | 0x65 => .loadRegisters opcode.x
  | _ =>
    match mode with
    | .standard => .unknown opcode
    | .extended => opcode.transferExtended

/-- The instruction that an opcode stands for in the given mode. -/
def decode (mode : Mode) (opcode : Opcode) : Instruction :=
  match opcode.family with
  | 0x0 => opcode.systemOrScreen mode
  | 0x1 => .jump opcode.address
  | 0x2 => .call opcode.address
  | 0x3 => .skip (.equalsByte opcode.x opcode.byte)
  | 0x4 => .skip (.differsByte opcode.x opcode.byte)
  | 0x5 => if opcode.nibble = 0 then .skip (.equals opcode.x opcode.y) else .unknown opcode
  | 0x6 => .loadByte opcode.x opcode.byte
  | 0x7 => .addByte opcode.x opcode.byte
  | 0x8 => opcode.arithmetic
  | 0x9 => if opcode.nibble = 0 then .skip (.differs opcode.x opcode.y) else .unknown opcode
  | 0xA => .setIndex opcode.address
  | 0xB => .jumpOffset opcode.x opcode.address
  | 0xC => .random opcode.x opcode.byte
  | 0xD => opcode.drawing mode
  | 0xE => opcode.keyTest
  | _ => opcode.transfer mode

end Opcode

end Chip8
