import Chip8.Text.Hex

/-! The sixteen general-purpose registers, by number. -/
namespace Chip8

abbrev Register := Fin 16

namespace Register

/-- Takes a number modulo sixteen. -/
def ofNat (number : Nat) : Register := Fin.ofNat 16 number

/-- The register that computed jumps add, unless the dialect has them name one. -/
def first : Register := 0

/-- The register that arithmetic and drawing report into. -/
def flag : Register := 15

def text (register : Register) : String := "V" ++ Text.hex 1 register.val

end Register

end Chip8
