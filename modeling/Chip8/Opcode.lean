import Chip8.Address.Basic
import Chip8.Register

/-! Sixteen-bit opcodes and the fields that instructions read from them. A
field is there whether or not the instruction at hand gives it a meaning. -/
namespace Chip8

structure Opcode where
  word : UInt16
deriving DecidableEq

namespace Opcode

/-- The high byte comes first in memory. -/
def ofBytes (high low : UInt8) : Opcode := ⟨UInt16.ofNat (high.toNat * 256 + low.toNat)⟩

/-- The top four bits, which choose the family of instructions. -/
def family (opcode : Opcode) : Nat := opcode.word.toNat / 0x1000

def x (opcode : Opcode) : Register := Register.ofNat (opcode.word.toNat / 0x100)

def y (opcode : Opcode) : Register := Register.ofNat (opcode.word.toNat / 0x10)

def nibble (opcode : Opcode) : UInt8 := UInt8.ofNat (opcode.word.toNat % 0x10)

def byte (opcode : Opcode) : UInt8 := UInt8.ofNat (opcode.word.toNat % 0x100)

/-- Twelve bits always name a cell of memory. -/
def address (opcode : Opcode) : Address :=
  ⟨opcode.word.toNat % memorySize, Nat.mod_lt _ (by decide)⟩

def text (opcode : Opcode) : String := "#" ++ Text.hex 4 opcode.word.toNat

end Opcode

end Chip8
