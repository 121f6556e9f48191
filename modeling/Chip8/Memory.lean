import Chip8.Cells
import Chip8.Fault
import Chip8.Font
import Chip8.Program

/-! Memory with checked access. A stretch of several bytes is checked as a
whole before any of it is touched. -/
namespace Chip8

structure Memory where
  cells : Vector UInt8 memorySize
deriving DecidableEq

/-- Addresses one after the other, all of them in memory. -/
structure Stretch where
  start : Nat
  /-- The first address after them. -/
  stop : Nat
  ordered : start ≤ stop
  inMemory : stop ≤ memorySize

namespace Stretch

/-- The fault names the first address outside of memory, but the start of a stretch whose
end is past every 64-bit word. -/
def check (start length : Nat) : Except Fault Stretch :=
  if UInt64.size ≤ start + length then .error (.invalidAddress start)
  else if outside : memorySize < start ∨ memorySize < start + length then
    .error (.invalidAddress (if memorySize ≤ start then start else memorySize))
  else
    have inMemory : start + length ≤ memorySize := Nat.not_lt.mp fun beyond => outside (.inr beyond)
    .ok ⟨start, start + length, Nat.le_add_right start length, inMemory⟩

def bytes (stretch : Stretch) (cells : Vector UInt8 memorySize) : List UInt8 :=
  have inside : stretch.start + (stretch.stop - stretch.start) ≤ memorySize := by
    rw [Nat.add_sub_cancel' stretch.ordered]
    exact stretch.inMemory
  Cells.slice cells stretch.start (stretch.stop - stretch.start) inside

end Stretch

namespace Memory

/-- Zero everywhere but for the two fonts. -/
def blank : Memory :=
  let zeros := Vector.replicate memorySize 0
  let withSmall := Cells.overlay zeros Font.small.start Font.small.bytes
  ⟨Cells.overlay withSmall Font.big.start Font.big.bytes⟩

/-- Blank but for one program. -/
def withProgram (program : Program) : Memory :=
  ⟨Cells.overlay blank.cells programStart program.bytes⟩

def read (memory : Memory) (address : UInt64) : Except Fault UInt8 :=
  if inside : address.toNat < memorySize then .ok memory.cells[address.toNat]
  else .error (.invalidAddress address.toNat)

def write (memory : Memory) (address : UInt64) (byte : UInt8) : Except Fault Memory :=
  if inside : address.toNat < memorySize then .ok ⟨memory.cells.set address.toNat byte⟩
  else .error (.invalidAddress address.toNat)

def slice (memory : Memory) (start length : UInt64) : Except Fault (List UInt8) := do
  let stretch ← Stretch.check start.toNat length.toNat
  return stretch.bytes memory.cells

def writeSlice (memory : Memory) (start : UInt64) (bytes : List UInt8) : Except Fault Memory := do
  let stretch ← Stretch.check start.toNat bytes.length
  return ⟨Cells.overlay memory.cells stretch.start bytes⟩

/-- The opcode at an aligned address, which always has a second byte. -/
def opcodeAt (memory : Memory) (address : AlignedAddress) : Opcode :=
  have low : address.toNat < memorySize := address.inMemory
  have high : address.toNat + 1 < memorySize := by
    have even := address.even
    simp only [memorySize] at low ⊢
    omega
  Opcode.ofBytes memory.cells[address.toNat] memory.cells[address.toNat + 1]

/-- A short description in place of four thousand bytes. -/
def summary (_ : Memory) : String := "Memory(" ++ memorySize.repr ++ " bytes)"

end Memory

end Chip8
