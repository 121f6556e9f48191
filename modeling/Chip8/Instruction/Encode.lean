import Chip8.Instruction.Basic

/-! From instructions to opcodes. Operands of four bits keep their low four
bits, and a computed jump names its register by the top bits of its target. -/
namespace Chip8

namespace Opcode

def ofAddress (family : Nat) (address : Address) : Opcode :=
  ⟨UInt16.ofNat (family * 0x1000 + address.toNat)⟩

def ofByte (family : Nat) (x : Register) (byte : UInt8) : Opcode :=
  ⟨UInt16.ofNat (family * 0x1000 + x.val * 0x100 + byte.toNat)⟩

def ofPair (family : Nat) (x y : Register) (selector : UInt8) : Opcode :=
  ⟨UInt16.ofNat (family * 0x1000 + x.val * 0x100 + y.val * 0x10 + selector.toNat % 0x10)⟩

end Opcode

def Arithmetic.selector : Arithmetic → UInt8
  | copy => 0x0
  | or => 0x1
  | and => 0x2
  | xor => 0x3
  | add => 0x4
  | subtract => 0x5
  | shiftRight => 0x6
  | subtractFrom => 0x7
  | shiftLeft => 0xE

def Condition.encode : Condition → Opcode
  | equalsByte x byte => .ofByte 0x3 x byte
  | differsByte x byte => .ofByte 0x4 x byte
  | equals x y => .ofPair 0x5 x y 0
  | differs x y => .ofPair 0x9 x y 0
  | held x => .ofByte 0xE x 0x9E
  | notHeld x => .ofByte 0xE x 0xA1

/-- The opcode that the pattern of an instruction yields for its operands. -/
def Instruction.encode : Instruction → Opcode
  | system address => .ofAddress 0x0 address
  | scrollDown rows => .ofPair 0x0 (.ofNat 0x0) (.ofNat 0xC) rows
  | clear => ⟨0x00E0⟩
  | ret => ⟨0x00EE⟩
  | scrollRight => ⟨0x00FB⟩
  | scrollLeft => ⟨0x00FC⟩
  | exit => ⟨0x00FD⟩
  | setResolution .low => ⟨0x00FE⟩
  | setResolution .high => ⟨0x00FF⟩
  | jump target => .ofAddress 0x1 target
  | call target => .ofAddress 0x2 target
  | skip condition => condition.encode
  | loadByte x byte => .ofByte 0x6 x byte
  | addByte x byte => .ofByte 0x7 x byte
  | arithmetic operation x y => .ofPair 0x8 x y operation.selector
  | setIndex address => .ofAddress 0xA address
  | jumpOffset _ target => .ofAddress 0xB target
  | random x mask => .ofByte 0xC x mask
  | draw x y rows => .ofPair 0xD x y rows
  | drawBig x y => .ofPair 0xD x y 0
  | readDelay x => .ofByte 0xF x 0x07
  | awaitKey x => .ofByte 0xF x 0x0A
  | setDelay x => .ofByte 0xF x 0x15
  | setSound x => .ofByte 0xF x 0x18
  | addIndex x => .ofByte 0xF x 0x1E
  | pointDigit x => .ofByte 0xF x 0x29
  | pointBigDigit x => .ofByte 0xF x 0x30
  | storeDigits x => .ofByte 0xF x 0x33
  | storeRegisters last => .ofByte 0xF last 0x55
  | loadRegisters last => .ofByte 0xF last 0x65
  | saveFlags last => .ofByte 0xF last 0x75
  | restoreFlags last => .ofByte 0xF last 0x85
  | unknown opcode => opcode

end Chip8
