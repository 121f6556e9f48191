/-! Sizes and addresses on which every part of the machine agrees. -/
namespace Chip8

/-- Memory is one flat array of this many bytes. -/
abbrev memorySize : Nat := 0x1000

/-- Programs are loaded, and start to run, here. -/
abbrev programStart : Nat := 0x200

/-- The longest program that fits between its start and the end of memory. -/
abbrev programCapacity : Nat := memorySize - programStart

/-- The most subroutine calls that can be open at once. -/
abbrev stackDepth : Nat := 16

/-- Registers that outlive a restart of the program. -/
abbrev flagCount : Nat := 8

end Chip8
