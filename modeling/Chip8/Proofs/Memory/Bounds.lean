import Chip8.Host.Part
import Chip8.Proofs.Cells
import Chip8.Proofs.Memory

/-! Which accesses to memory succeed, what they read and write, and by which address the
refused ones are reported. -/
namespace Chip8.Memory

/-- These bytes stand in memory from an address on. -/
def Holds (memory : Memory) (start : Nat) (bytes : List UInt8) : Prop :=
  ∀ offset, offset < bytes.length → memory.cells[start + offset]? = bytes[offset]?

/-- What is left where bytes were written, and of nothing else. -/
structure Overwritten (memory : Memory) (start : Nat) (bytes : List UInt8) (after : Memory) :
    Prop where
  written : after.Holds start bytes
  kept : ∀ position, ¬ (start ≤ position ∧ position < start + bytes.length) →
    after.cells[position]? = memory.cells[position]?

theorem ext_getElem? {first last : Memory}
    (same : ∀ position : Nat, first.cells[position]? = last.cells[position]?) : first = last := by
  cases first
  cases last
  apply congrArg Memory.mk
  apply Vector.ext
  intro position inside
  have found := same position
  rw [Vector.getElem?_eq_getElem inside, Vector.getElem?_eq_getElem inside] at found
  exact Option.some.inj found

theorem holds_slice (memory : Memory) {start length : Nat} (inside : start + length ≤ memorySize) :
    memory.Holds start (Cells.slice memory.cells start length inside) := by
  intro offset bound
  rw [Cells.length_slice] at bound
  exact (Cells.getElem?_slice memory.cells start length inside offset bound).symm

/-- Bytes that stand in memory are told by their place and their number. -/
theorem Holds.eq {memory : Memory} (first : memory.Holds start bytes)
    (last : memory.Holds start others) (length : bytes.length = others.length) : bytes = others := by
  apply List.ext_getElem?
  intro offset
  by_cases bound : offset < bytes.length
  · rw [← first offset bound, last offset (length ▸ bound)]
  · rw [List.getElem?_eq_none (Nat.not_lt.mp bound),
      List.getElem?_eq_none (length ▸ Nat.not_lt.mp bound)]

theorem overwritten_overlay (memory : Memory) {start : Nat} {bytes : List UInt8}
    (inside : start + bytes.length ≤ memorySize) :
    memory.Overwritten start bytes ⟨Cells.overlay memory.cells start bytes⟩ where
  written _ bound := Cells.getElem?_overlay_of_covered memory.cells bound (by omega)
  kept _ uncovered := Cells.getElem?_overlay_of_uncovered memory.cells uncovered

theorem Overwritten.eq {memory first last : Memory} (one : memory.Overwritten start bytes first)
    (other : memory.Overwritten start bytes last) : first = last := by
  apply ext_getElem?
  intro position
  by_cases covered : start ≤ position ∧ position < start + bytes.length
  · obtain ⟨offset, rfl⟩ := Nat.exists_eq_add_of_le covered.1
    have bound : offset < bytes.length := by omega
    rw [one.written offset bound, other.written offset bound]
  · rw [one.kept position covered, other.kept position covered]

variable {memory after : Memory} {start length address : UInt64} {bytes : List UInt8}

theorem slice_eq_ok_iff : memory.slice start length = .ok bytes ↔
    start.toNat + length.toNat ≤ memorySize ∧ bytes.length = length.toNat ∧
      memory.Holds start.toNat bytes := by
  constructor
  · intro read
    have inside := le_of_slice read
    have size := length_of_slice read
    rw [memory.slice_of_le start length inside] at read
    cases read
    exact ⟨inside, size, memory.holds_slice inside⟩
  · rintro ⟨inside, size, held⟩
    rw [memory.slice_of_le start length inside]
    have length := (Cells.length_slice memory.cells start.toNat length.toNat inside).trans size.symm
    exact congrArg Except.ok ((memory.holds_slice inside).eq held length)

/-- To read a stretch depends on its bytes only. -/
theorem slice_congr {other : Memory} (same : ∀ offset, offset < length.toNat →
      other.cells[start.toNat + offset]? = memory.cells[start.toNat + offset]?) :
    other.slice start length = memory.slice start length := by
  cases read : memory.slice start length with
  | ok bytes =>
    obtain ⟨inside, size, held⟩ := slice_eq_ok_iff.mp read
    refine slice_eq_ok_iff.mpr ⟨inside, size, fun offset bound => ?_⟩
    rw [same offset (size ▸ bound), held offset bound]
  | error fault =>
    unfold slice at read ⊢
    cases checked : Stretch.check start.toNat length.toNat with
    | error reason =>
      rw [checked] at read
      exact read
    | ok stretch =>
      rw [checked] at read
      cases read

theorem writeSlice_eq_ok_iff : memory.writeSlice start bytes = .ok after ↔
    start.toNat + bytes.length ≤ memorySize ∧ memory.Overwritten start.toNat bytes after := by
  constructor
  · intro written
    have inside := le_of_writeSlice written
    rw [memory.writeSlice_of_le start inside] at written
    cases written
    exact ⟨inside, memory.overwritten_overlay inside⟩
  · rintro ⟨inside, overwritten⟩
    rw [memory.writeSlice_of_le start inside]
    exact congrArg Except.ok ((memory.overwritten_overlay inside).eq overwritten)

theorem read_eq_ok_iff {byte : UInt8} :
    memory.read address = .ok byte ↔ memory.cells[address.toNat]? = some byte := by
  unfold read
  split
  · rename_i inside
    rw [Vector.getElem?_eq_getElem inside, Except.ok.injEq, Option.some.injEq]
  · rename_i outside
    rw [Vector.getElem?_eq_none (Nat.not_lt.mp outside)]
    exact iff_of_false nofun nofun

theorem write_of_lt (inside : address.toNat < memorySize) (byte : UInt8) :
    memory.write address byte = .ok ⟨Cells.overlay memory.cells address.toNat [byte]⟩ := by
  have cells : memory.cells.set address.toNat byte = memory.cells.setIfInBounds address.toNat byte := by
    apply Vector.ext
    intro position bound
    rw [Vector.getElem_set, Vector.getElem_setIfInBounds]
  rw [write, dif_pos inside, cells]
  rfl

/-- Writing one byte is writing a stretch of one. -/
theorem write_eq_ok_iff {byte : UInt8} : memory.write address byte = .ok after ↔
    address.toNat < memorySize ∧ memory.Overwritten address.toNat [byte] after := by
  by_cases inside : address.toNat < memorySize
  · have overwritten : memory.Overwritten address.toNat [byte] _ := memory.overwritten_overlay inside
    rw [write_of_lt inside, Except.ok.injEq, and_iff_right inside]
    exact ⟨fun same => same ▸ overwritten, overwritten.eq⟩
  · rw [write, dif_neg inside]
    exact iff_of_false nofun fun accepted => inside accepted.1

/-- Writes bytes to one address after the other, each by an access of its own. -/
def writeEach (memory : Memory) (address : UInt64) : List UInt8 → Except Fault Memory
  | [] => .ok memory
  | byte :: rest => do
    let written ← memory.write address byte
    written.writeEach (address + 1) rest

/-- Where the whole stretch is inside, no single address of it is refused. -/
theorem writeEach_of_le (inside : address.toNat + bytes.length ≤ memorySize) :
    memory.writeEach address bytes = .ok ⟨Cells.overlay memory.cells address.toNat bytes⟩ := by
  induction bytes generalizing memory address with
  | nil => rfl
  | cons byte rest ih =>
    -- The next address is one word further, since the whole stretch is below every overflow.
    have bound : address.toNat + (rest.length + 1) ≤ 0x1000 := inside
    have first : address.toNat < 0x1000 := by omega
    have next : (address + 1).toNat = address.toNat + 1 := by
      have fits : address.toNat + 1 < 2 ^ 64 := by omega
      rw [UInt64.toNat_add]
      exact Nat.mod_eq_of_lt fits
    have others : (address + 1).toNat + rest.length ≤ memorySize := by
      rw [next, Nat.add_assoc, Nat.add_comm 1]
      exact inside
    have written : memory.write address byte = .ok _ := write_of_lt first byte
    rw [writeEach, written]
    refine (ih others).trans ?_
    rw [next]
    rfl

/-- How memory answers accesses at any address and of any length. -/
structure ChecksBounds (memory : Memory) : Prop where
  reads : ∀ address, (∃ byte, memory.read address = .ok byte) ↔ address.toNat < memorySize
  read : ∀ address byte, memory.read address = .ok byte ↔ memory.cells[address.toNat]? = some byte
  slices : ∀ start length,
    (∃ bytes, memory.slice start length = .ok bytes) ↔ start.toNat + length.toNat ≤ memorySize
  slice : ∀ start length bytes, memory.slice start length = .ok bytes ↔
    start.toNat + length.toNat ≤ memorySize ∧ bytes.length = length.toNat ∧
      memory.Holds start.toNat bytes
  writes : ∀ address byte, (∃ after, memory.write address byte = .ok after) ↔ address.toNat < memorySize
  write : ∀ address byte after, memory.write address byte = .ok after ↔
    address.toNat < memorySize ∧ memory.Overwritten address.toNat [byte] after
  overwrites : ∀ start bytes, (∃ after, memory.writeSlice start bytes = .ok after) ↔
    start.toNat + bytes.length ≤ memorySize
  overwrite : ∀ start bytes after, memory.writeSlice start bytes = .ok after ↔
    start.toNat + bytes.length ≤ memorySize ∧ memory.Overwritten start.toNat bytes after
  each : ∀ start bytes after, memory.writeSlice start bytes = .ok after →
    memory.writeEach start bytes = .ok after
  refused : ∀ call fault, (memory.perform call).1 = .failed fault → (memory.perform call).2 = memory

theorem perform_of_failed {call : MemoryCall} (failed : (memory.perform call).1 = .failed fault) :
    (memory.perform call).2 = memory := by
  have refused (change : Except Fault Memory)
      (failed : (Answer.ofChange memory change).1 = .failed fault) :
      (Answer.ofChange memory change).2 = memory := by
    cases change with
    | ok after => cases failed
    | error reason => rfl
  cases call with
  | write address byte => exact refused _ failed
  | writeSlice start bytes => exact refused _ failed
  | reset => cases failed

theorem checks_bounds (memory : Memory) : memory.ChecksBounds where
  reads address := by
    simp only [read_eq_ok_iff]
    exact ⟨fun ⟨_, found⟩ => (Vector.getElem?_eq_some_iff.mp found).1,
      fun inside => ⟨_, Vector.getElem?_eq_getElem inside⟩⟩
  read _ _ := read_eq_ok_iff
  slices start length :=
    ⟨fun ⟨_, read⟩ => le_of_slice read,
      fun inside => ⟨_, memory.slice_of_le start length inside⟩⟩
  slice _ _ _ := slice_eq_ok_iff
  writes address byte :=
    ⟨fun ⟨_, written⟩ => (write_eq_ok_iff.mp written).1,
      fun inside => ⟨_, write_of_lt inside byte⟩⟩
  write _ _ _ := write_eq_ok_iff
  overwrites start bytes :=
    ⟨fun ⟨_, written⟩ => le_of_writeSlice written,
      fun inside => ⟨_, memory.writeSlice_of_le start inside⟩⟩
  overwrite _ _ _ := writeSlice_eq_ok_iff
  each start bytes after written := by
    have inside := le_of_writeSlice written
    rw [memory.writeSlice_of_le start inside] at written
    exact (writeEach_of_le inside).trans written
  refused _ _ := perform_of_failed

/-- By which address a stretch that leaves memory is reported: by the first one outside, but
by its start where that lies inside and its end is past every word. -/
structure ReportedBy (start length reported : Nat) : Prop where
  outside : reported = max start memorySize ↔ start + length < UInt64.size ∨ memorySize ≤ start
  inside : reported < memorySize ↔ UInt64.size ≤ start + length ∧ start < memorySize
  start : reported < memorySize → reported = start

theorem reportedBy_of_check {start length : Nat} (outside : memorySize < start + length) :
    ∃ reported, Stretch.check start length = .error (.invalidAddress reported) ∧
      ReportedBy start length reported := by
  by_cases fits : start + length < UInt64.size
  · refine ⟨_, Stretch.check_of_lt outside fits, ?_, ?_, ?_⟩
    · exact iff_of_true rfl (.inl fits)
    · omega
    · omega
  · refine ⟨_, Stretch.check_of_overflow (Nat.not_lt.mp fits), ?_, ?_, ?_⟩
    · omega
    · omega
    · exact fun _ => rfl

theorem refusals_reported (memory : Memory) (start length : UInt64)
    (outside : memorySize < start.toNat + length.toNat) :
    ∃ reported, memory.slice start length = .error (.invalidAddress reported) ∧
      (∀ bytes : List UInt8, bytes.length = length.toNat →
        memory.writeSlice start bytes = .error (.invalidAddress reported)) ∧
      ReportedBy start.toNat length.toNat reported := by
  obtain ⟨reported, checked, reportedBy⟩ := reportedBy_of_check outside
  refine ⟨reported, ?_, ?_, reportedBy⟩
  · rw [slice, checked]
    rfl
  · intro bytes size
    rw [writeSlice, size, checked]
    rfl

/-- One byte too many at the end of memory is reported by the address after the last. -/
theorem last_bytes_reported : memorySize < (0xFFE : UInt64).toNat + (3 : UInt64).toNat ∧
    blank.slice 0xFFE 3 = .error (.invalidAddress 0x1000) := by
  have outside : memorySize < (0xFFE : UInt64).toNat + (3 : UInt64).toNat := by decide
  obtain ⟨reported, refused, _, reportedBy⟩ := refusals_reported blank 0xFFE 3 outside
  have first : reported = 0x1000 := reportedBy.outside.mpr (.inl (by decide))
  exact ⟨outside, first ▸ refused⟩

/-- All addresses from 0x1000 on are outside, but the address that is reported is not. -/
theorem endless_stretch_reported_inside :
    memorySize < (1 : UInt64).toNat + (0xFFFFFFFFFFFFFFFF : UInt64).toNat ∧
      blank.slice 1 0xFFFFFFFFFFFFFFFF = .error (.invalidAddress 1) ∧
      blank.slice 1 0xFFFFFFFFFFFFFFFF ≠ .error (.invalidAddress (max (1 : UInt64).toNat memorySize)) := by
  have long : UInt64.size ≤ (1 : UInt64).toNat + (0xFFFFFFFFFFFFFFFF : UInt64).toNat := by decide
  have refused : blank.slice 1 0xFFFFFFFFFFFFFFFF = .error (.invalidAddress 1) := by
    rw [slice, Stretch.check_of_overflow long]
    rfl
  refine ⟨by decide, refused, ?_⟩
  rw [refused]
  intro same
  injection same with fault
  exact absurd fault (by decide)

end Chip8.Memory
