import Chip8.Layout
import Chip8.Text.Hex

/-! Addresses of memory cells. Instructions start at even addresses only. -/
namespace Chip8

structure Address where
  toNat : Nat
  inMemory : toNat < memorySize
deriving DecidableEq

structure AlignedAddress extends Address where
  even : toNat % 2 = 0
deriving DecidableEq

/-- The address of the first instruction of a program. -/
def AlignedAddress.start : AlignedAddress := ⟨⟨programStart, by decide⟩, by decide⟩

def Address.text (address : Address) : String := "#" ++ Text.hex 3 address.toNat

end Chip8
