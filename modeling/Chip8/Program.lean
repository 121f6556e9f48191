import Chip8.Layout

/-! Programs, and the sources that hosts read them from. -/
namespace Chip8

/-- Bytes that fit between the start of programs and the end of memory. -/
structure Program where
  bytes : List UInt8
  fits : bytes.length ≤ programCapacity
deriving DecidableEq

namespace Program

def empty : Program := ⟨[], Nat.zero_le _⟩

def size (program : Program) : Nat := program.bytes.length

end Program

/-- What reading yields: some bytes, and then the end or a failure. -/
structure Source where
  bytes : List UInt8
  failure : Option String

end Chip8
