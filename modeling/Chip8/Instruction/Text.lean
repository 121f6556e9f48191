import Chip8.Instruction.Basic

/-! The written form of instructions: a mnemonic and its operands. Addresses,
bytes and opcodes are hexadecimal behind a `#`, row counts are decimal. -/
namespace Chip8

inductive Operand where
  | register (x : Register)
  | byte (value : UInt8)
  | address (target : Address)
  | opcode (code : Opcode)
  | count (rows : UInt8)
  /-- A part of the machine that goes by its own name. -/
  | named (name : String)

def Operand.text : Operand → String
  | register x => x.text
  | byte value => "#" ++ Text.hex 2 value.toNat
  | address target => target.text
  | opcode code => code.text
  | count rows => rows.toNat.repr
  | named name => name

def Arithmetic.mnemonic : Arithmetic → String
  | copy => "LD"
  | or => "OR"
  | and => "AND"
  | xor => "XOR"
  | add => "ADD"
  | subtract => "SUB"
  | shiftRight => "SHR"
  | subtractFrom => "SUBN"
  | shiftLeft => "SHL"

def Condition.mnemonic : Condition → String
  | equalsByte .. => "SE"
  | differsByte .. => "SNE"
  | equals .. => "SE"
  | differs .. => "SNE"
  | held _ => "SKP"
  | notHeld _ => "SKNP"

def Condition.operands : Condition → List Operand
  | equalsByte x byte => [.register x, .byte byte]
  | differsByte x byte => [.register x, .byte byte]
  | equals x y => [.register x, .register y]
  | differs x y => [.register x, .register y]
  | held x => [.register x]
  | notHeld x => [.register x]

namespace Instruction

def mnemonic : Instruction → String
  | system _ => "SYS"
  | scrollDown _ => "SCD"
  | scrollRight => "SCR"
  | scrollLeft => "SCL"
  | clear => "CLS"
  | setResolution .low => "LOW"
  | setResolution .high => "HIGH"
  | ret => "RET"
  | exit => "EXIT"
  | jump _ => "JP"
  | call _ => "CALL"
  | jumpOffset .. => "JP"
  | skip condition => condition.mnemonic
  | loadByte .. => "LD"
  | addByte .. => "ADD"
  | arithmetic operation .. => operation.mnemonic
  | setIndex _ => "LD"
  | addIndex _ => "ADD"
  | random .. => "RND"
  | draw .. => "DRW"
  | drawBig .. => "DRW"
  | readDelay _ => "LD"
  | awaitKey _ => "LD"
  | setDelay _ => "LD"
  | setSound _ => "LD"
  | pointDigit _ => "LD"
  | pointBigDigit _ => "LD"
  | storeDigits _ => "LD"
  | storeRegisters _ => "LD"
  | loadRegisters _ => "LD"
  | saveFlags _ => "LD"
  | restoreFlags _ => "LD"
  | unknown _ => "DW"

/-- A computed jump is always written with the first register. -/
def operands : Instruction → List Operand
  | system address => [.address address]
  | scrollDown rows => [.count rows]
  | scrollRight => []
  | scrollLeft => []
  | clear => []
  | setResolution _ => []
  | ret => []
  | exit => []
  | jump target => [.address target]
  | call target => [.address target]
  | jumpOffset _ target => [.register .first, .address target]
  | skip condition => condition.operands
  | loadByte x byte => [.register x, .byte byte]
  | addByte x byte => [.register x, .byte byte]
  | arithmetic _ x y => [.register x, .register y]
  | setIndex address => [.named "I", .address address]
  | addIndex x => [.named "I", .register x]
  | random x mask => [.register x, .byte mask]
  | draw x y rows => [.register x, .register y, .count rows]
  | drawBig x y => [.register x, .register y, .count 0]
  | readDelay x => [.register x, .named "DT"]
  | awaitKey x => [.register x, .named "K"]
  | setDelay x => [.named "DT", .register x]
  | setSound x => [.named "ST", .register x]
  | pointDigit x => [.named "F", .register x]
  | pointBigDigit x => [.named "HF", .register x]
  | storeDigits x => [.named "B", .register x]
  | storeRegisters last => [.named "[I]", .register last]
  | loadRegisters last => [.register last, .named "[I]"]
  | saveFlags last => [.named "R", .register last]
  | restoreFlags last => [.register last, .named "R"]
  | unknown opcode => [.opcode opcode]

def text (instruction : Instruction) : String :=
  match instruction.operands with
  | [] => instruction.mnemonic
  | operands => instruction.mnemonic ++ " " ++ ", ".intercalate (operands.map Operand.text)

end Instruction

end Chip8
