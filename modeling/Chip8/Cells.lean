/-! Fixed rows of bytes: reading a stretch, laying bytes over a stretch, and moving
the bytes within one. -/
namespace Chip8.Cells

variable {size : Nat}

/-- The bytes of a stretch that lies inside. -/
def slice (cells : Vector UInt8 size) (start length : Nat) (inside : start + length ≤ size) :
    List UInt8 :=
  List.ofFn fun position : Fin length =>
    have bound : start + position.val < size := by omega
    cells[start + position.val]

/-- Writes bytes one after the other; those past the end are dropped. -/
def overlay (cells : Vector UInt8 size) (start : Nat) : List UInt8 → Vector UInt8 size
  | [] => cells
  | byte :: rest => overlay (cells.setIfInBounds start byte) (start + 1) rest

/-- Writes one byte over another. -/
def copy (cells : Vector UInt8 size) (source target : Nat) : Vector UInt8 size :=
  cells.setIfInBounds target (cells[source]?.getD 0)

/-- Moves the bytes of a stretch towards its end, the last ones first, and clears
its start. -/
def moveForward (cells : Vector UInt8 size) (start length distance : Nat) : Vector UInt8 size :=
  let targets := (List.range' (start + distance) (length - distance)).reverse
  let moved := targets.foldl (fun cells target => copy cells (target - distance) target) cells
  overlay moved start (List.replicate distance 0)

/-- Moves the bytes of a stretch towards its start, the first ones first, and clears
its end. -/
def moveBack (cells : Vector UInt8 size) (start length distance : Nat) : Vector UInt8 size :=
  let targets := List.range' start (length - distance)
  let moved := targets.foldl (fun cells target => copy cells (target + distance) target) cells
  overlay moved (start + (length - distance)) (List.replicate distance 0)

theorem length_slice (cells : Vector UInt8 size) (start length : Nat)
    (inside : start + length ≤ size) : (slice cells start length inside).length = length := by
  simp [slice]

theorem getElem?_slice (cells : Vector UInt8 size) (start length : Nat)
    (inside : start + length ≤ size) (position : Nat) (bound : position < length) :
    (slice cells start length inside)[position]? = cells[start + position]? := by
  have reachable : start + position < size := by omega
  simp [slice, bound, reachable]

/-- A cell holds the byte laid over it, or else what it held before. -/
theorem getElem_overlay (cells : Vector UInt8 size) (start : Nat) (bytes : List UInt8)
    (position : Nat) (bound : position < size) :
    (overlay cells start bytes)[position] =
      if covered : start ≤ position ∧ position < start + bytes.length then
        bytes[position - start]
      else cells[position] := by
  induction bytes generalizing cells start with
  | nil =>
    have uncovered : ¬ (start ≤ position ∧ position < start) := by omega
    simp [overlay, uncovered]
  | cons byte rest ih =>
    rw [overlay, ih]
    rcases Nat.lt_trichotomy position start with before | here | after
    · have uncovered : ¬ start ≤ position := by omega
      have tailUncovered : ¬ start + 1 ≤ position := by omega
      have other : start ≠ position := by omega
      simp [uncovered, tailUncovered, other]
    · subst here
      have tailUncovered : ¬ position + 1 ≤ position := by omega
      simp [tailUncovered]
    · obtain ⟨distance, rfl⟩ := Nat.exists_eq_add_of_lt after
      have other : start ≠ start + distance + 1 := by omega
      have shifted : start + distance + 1 - start = distance + 1 := by omega
      have tailShifted : start + distance + 1 - (start + 1) = distance := by omega
      by_cases covered : distance < rest.length
      · have lower : start ≤ start + distance + 1 := by omega
        have tailLower : start + 1 ≤ start + distance + 1 := by omega
        have upper : start + distance + 1 < start + (rest.length + 1) := by omega
        have tailUpper : start + distance + 1 < start + 1 + rest.length := by omega
        simp [lower, tailLower, upper, tailUpper, shifted, tailShifted]
      · have upper : ¬ start + distance + 1 < start + (rest.length + 1) := by omega
        have tailUpper : ¬ start + distance + 1 < start + 1 + rest.length := by omega
        simp [upper, tailUpper, other]

end Chip8.Cells
