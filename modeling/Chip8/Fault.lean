import Chip8.Opcode

/-! What can go wrong. A fault is reported to the host and never ends it. -/
namespace Chip8

inductive Fault where
  /-- Something pointed outside of memory, or at no instruction boundary. -/
  | invalidAddress (address : Nat)
  /-- The active instruction table has no such instruction. -/
  | unknownOpcode (opcode : Opcode)
  | stackOverflow
  | stackUnderflow
  | programTooLarge (size : Nat)
  | invalidKeyCode (code : UInt8)
deriving DecidableEq

namespace Fault

/-- The status that stands for the fault where only a number can be passed.
Zero is left for success. -/
def code : Fault → Nat
  | invalidAddress _ => 1
  | unknownOpcode _ => 2
  | stackOverflow => 3
  | stackUnderflow => 4
  | programTooLarge _ => 5
  | invalidKeyCode _ => 6

def message : Fault → String
  | invalidAddress address => "invalid address: 0x" ++ Text.hex 3 address
  | unknownOpcode opcode => "unknown opcode: " ++ opcode.text
  | stackOverflow => "call stack overflow"
  | stackUnderflow => "no subroutine to return from"
  | programTooLarge size => "program is too large (" ++ size.repr ++ " bytes)"
  | invalidKeyCode code => "invalid key code: " ++ code.toNat.repr

end Fault

end Chip8
