import Chip8.Memory

/-! Which stretches of memory may be read and written, and where programs lie. -/
namespace Chip8

namespace Stretch

variable {start length : Nat}

theorem check_of_le (inside : start + length ≤ memorySize) :
    check start length = .ok ⟨start, start + length, Nat.le_add_right start length, inside⟩ := by
  have fits : ¬ UInt64.size ≤ start + length :=
    Nat.not_le.mpr (Nat.lt_of_le_of_lt inside (by decide))
  have within : ¬ (memorySize < start ∨ memorySize < start + length) := by omega
  rw [check, if_neg fits, dif_neg within]

/-- A stretch whose end is a word is reported by its first address outside. -/
theorem check_of_lt (outside : memorySize < start + length) (fits : start + length < UInt64.size) :
    check start length = .error (.invalidAddress (max start memorySize)) := by
  rw [check, if_neg (Nat.not_le.mpr fits), dif_pos (.inr outside)]
  by_cases beyond : memorySize ≤ start
  · rw [if_pos beyond, Nat.max_eq_left beyond]
  · rw [if_neg beyond, Nat.max_eq_right (Nat.le_of_not_le beyond)]

theorem check_of_overflow (long : UInt64.size ≤ start + length) :
    check start length = .error (.invalidAddress start) := if_pos long

theorem le_of_check (checked : check start length = .ok stretch) : start + length ≤ memorySize := by
  apply Nat.not_lt.mp
  intro outside
  by_cases fits : start + length < UInt64.size
  · rw [check_of_lt outside fits] at checked
    cases checked
  · rw [check_of_overflow (Nat.not_lt.mp fits)] at checked
    cases checked

end Stretch

namespace Memory

theorem slice_of_le (memory : Memory) (start length : UInt64)
    (inside : start.toNat + length.toNat ≤ memorySize) :
    memory.slice start length =
      .ok (Cells.slice memory.cells start.toNat length.toNat inside) := by
  have stretch (stop : Nat) (ordered : start.toNat ≤ stop) (inMemory : stop ≤ memorySize)
      (ends : stop = start.toNat + length.toNat) :
      Stretch.bytes ⟨start.toNat, stop, ordered, inMemory⟩ memory.cells =
        Cells.slice memory.cells start.toNat length.toNat inside := by
    subst ends
    simp only [Stretch.bytes, Nat.add_sub_cancel_left]
  rw [slice, Stretch.check_of_le inside]
  exact congrArg Except.ok (stretch _ _ _ rfl)

theorem slice_of_lt (memory : Memory) (start length : UInt64)
    (outside : memorySize < start.toNat + length.toNat)
    (fits : start.toNat + length.toNat < UInt64.size) :
    memory.slice start length = .error (.invalidAddress (max start.toNat memorySize)) := by
  rw [slice, Stretch.check_of_lt outside fits]
  rfl

theorem le_of_slice {memory : Memory} (read : memory.slice start length = .ok bytes) :
    start.toNat + length.toNat ≤ memorySize := by
  unfold slice at read
  cases checked : Stretch.check start.toNat length.toNat with
  | error fault =>
    rw [checked] at read
    cases read
  | ok stretch => exact Stretch.le_of_check checked

theorem length_of_slice {memory : Memory} (read : memory.slice start length = .ok bytes) :
    bytes.length = length.toNat := by
  have inside := le_of_slice read
  rw [memory.slice_of_le start length inside] at read
  cases read
  exact Cells.length_slice _ _ _ _

theorem writeSlice_of_le (memory : Memory) (start : UInt64) {bytes : List UInt8}
    (inside : start.toNat + bytes.length ≤ memorySize) :
    memory.writeSlice start bytes = .ok ⟨Cells.overlay memory.cells start.toNat bytes⟩ := by
  rw [writeSlice, Stretch.check_of_le inside]
  rfl

theorem writeSlice_of_lt (memory : Memory) (start : UInt64) {bytes : List UInt8}
    (outside : memorySize < start.toNat + bytes.length)
    (fits : start.toNat + bytes.length < UInt64.size) :
    memory.writeSlice start bytes = .error (.invalidAddress (max start.toNat memorySize)) := by
  rw [writeSlice, Stretch.check_of_lt outside fits]
  rfl

theorem le_of_writeSlice {memory : Memory} (written : memory.writeSlice start bytes = .ok after) :
    start.toNat + bytes.length ≤ memorySize := by
  unfold writeSlice at written
  cases checked : Stretch.check start.toNat bytes.length with
  | error fault =>
    rw [checked] at written
    cases written
  | ok stretch => exact Stretch.le_of_check checked

theorem getElem_withProgram (program : Program) {position : Nat}
    (loaded : position < program.bytes.length)
    (inside : programStart + position < memorySize) :
    (withProgram program).cells[programStart + position] = program.bytes[position] := by
  have covered : programStart ≤ programStart + position ∧
      programStart + position < programStart + program.bytes.length := by omega
  simp only [withProgram, Cells.getElem_overlay, dif_pos covered, Nat.add_sub_cancel_left]

/-- What stands at an address inside of a program is what the program has there. -/
theorem opcodeAt_withProgram (program : Program) {address : AlignedAddress} {position : Nat}
    (place : address.toNat = programStart + position) (two : position + 1 < program.bytes.length) :
    (withProgram program).opcodeAt address =
      .ofBytes program.bytes[position] program.bytes[position + 1] := by
  obtain ⟨⟨number, inside⟩, even⟩ := address
  cases place
  have within : programStart + (position + 1) < memorySize := by
    have bound : program.bytes.length ≤ 0xE00 := program.fits
    simp only [programStart, memorySize]
    omega
  exact congr (congrArg Opcode.ofBytes (getElem_withProgram program (Nat.lt_of_succ_lt two) inside))
    (getElem_withProgram program two within)

end Memory

end Chip8
