import Chip8.Cells

/-! What is read from a row of bytes after a part of it was overlaid or moved. A
stretch may be moved onto itself because each copy reads a byte that no copy before
it wrote. -/
namespace Chip8.Cells

variable {size : Nat} (cells : Vector UInt8 size) {start : Nat} {bytes : List UInt8}

theorem getElem?_overlay_of_covered {offset : Nat} (covered : offset < bytes.length)
    (inside : start + offset < size) :
    (overlay cells start bytes)[start + offset]? = bytes[offset]? := by
  have within : start ≤ start + offset ∧ start + offset < start + bytes.length := by omega
  rw [Vector.getElem?_eq_getElem inside, getElem_overlay, dif_pos within,
    List.getElem?_eq_getElem covered]
  simp only [Nat.add_sub_cancel_left]

theorem getElem?_overlay_of_uncovered {position : Nat}
    (uncovered : ¬ (start ≤ position ∧ position < start + bytes.length)) :
    (overlay cells start bytes)[position]? = cells[position]? := by
  by_cases inside : position < size
  · rw [Vector.getElem?_eq_getElem inside, Vector.getElem?_eq_getElem inside, getElem_overlay,
      dif_neg uncovered]
  · rw [Vector.getElem?_eq_none (Nat.not_lt.mp inside), Vector.getElem?_eq_none (Nat.not_lt.mp inside)]

theorem getElem?_overlay_zeros {distance position : Nat} (inside : start + distance ≤ size) :
    (overlay cells start (List.replicate distance 0))[position]? =
      if start ≤ position ∧ position < start + distance then some 0 else cells[position]? := by
  split
  · rename_i covered
    obtain ⟨offset, rfl⟩ := Nat.exists_eq_add_of_le covered.1
    have short : offset < distance := by omega
    rw [getElem?_overlay_of_covered cells (by rw [List.length_replicate]; exact short) (by omega),
      List.getElem?_replicate, if_pos short]
  · rename_i uncovered
    apply getElem?_overlay_of_uncovered
    rw [List.length_replicate]
    exact uncovered

theorem getElem?_copy {source target : Nat} (reads : source < size) (writes : target < size)
    (position : Nat) :
    (copy cells source target)[position]? =
      if target = position then cells[source]? else cells[position]? := by
  by_cases same : target = position
  · subst same
    simp [copy, reads, writes]
  · simp [copy, same]

/-- Copies in an order in which none reads what one before it wrote give what
copying all at once would give. -/
theorem getElem?_copies {source : Nat → Nat} {targets : List Nat}
    (unwritten : targets.Pairwise fun earlier later => source later ≠ earlier)
    (reads : ∀ target ∈ targets, source target < size) (writes : ∀ target ∈ targets, target < size)
    (position : Nat) :
    (targets.foldl (fun cells target => copy cells (source target) target) cells)[position]? =
      if position ∈ targets then cells[source position]? else cells[position]? := by
  induction targets generalizing cells with
  | nil => simp
  | cons target rest ih =>
    obtain ⟨first, later⟩ := List.pairwise_cons.mp unwritten
    have copied := getElem?_copy cells (reads target List.mem_cons_self)
      (writes target List.mem_cons_self)
    rw [List.foldl_cons, ih _ later (fun other member => reads other (List.mem_cons_of_mem _ member))
      fun other member => writes other (List.mem_cons_of_mem _ member)]
    by_cases again : position ∈ rest
    · rw [if_pos again, if_pos (List.mem_cons_of_mem target again), copied,
        if_neg (Ne.symm (first position again))]
    · rw [if_neg again, copied]
      by_cases here : target = position
      · subst here
        rw [if_pos rfl, if_pos List.mem_cons_self]
      · have absent : position ∉ target :: rest := by
          simp only [List.mem_cons, not_or]
          exact ⟨Ne.symm here, again⟩
        rw [if_neg here, if_neg absent]

/-- From the last byte on, each one is read from below all that were written. -/
theorem getElem?_moveForward {length distance : Nat} (inside : start + length ≤ size)
    (short : distance ≤ length) (position : Nat) :
    (moveForward cells start length distance)[position]? =
      if start ≤ position ∧ position < start + length then
        if position < start + distance then some 0 else cells[position - distance]?
      else cells[position]? := by
  have targeted : ∀ target,
      target ∈ (List.range' (start + distance) (length - distance)).reverse ↔
        start + distance ≤ target ∧ target < start + length := by
    intro target
    rw [List.mem_reverse, List.mem_range'_1]
    omega
  have unwritten : (List.range' (start + distance) (length - distance)).reverse.Pairwise
      fun earlier later => later - distance ≠ earlier := by
    apply List.pairwise_reverse.mpr
    apply (List.pairwise_lt_range' 1).imp
    intro later earlier below
    omega
  have moved := getElem?_copies cells unwritten
    (fun target member => by have := (targeted target).mp member; omega)
    fun target member => by have := (targeted target).mp member; omega
  rw [moveForward, getElem?_overlay_zeros _ (by omega), moved]
  simp only [targeted]
  by_cases cleared : start ≤ position ∧ position < start + distance
  · rw [if_pos cleared, if_pos (by omega), if_pos cleared.2]
  · rw [if_neg cleared]
    by_cases within : start ≤ position ∧ position < start + length
    · rw [if_pos (by omega), if_pos within, if_neg (by omega)]
    · rw [if_neg (by omega), if_neg within]

/-- From the first byte on, each one is read from above all that were written. -/
theorem getElem?_moveBack {length distance : Nat} (inside : start + length ≤ size)
    (short : distance ≤ length) (position : Nat) :
    (moveBack cells start length distance)[position]? =
      if start ≤ position ∧ position < start + length then
        if position + distance < start + length then cells[position + distance]? else some 0
      else cells[position]? := by
  have targeted : ∀ target, target ∈ List.range' start (length - distance) ↔
      start ≤ target ∧ target + distance < start + length := by
    intro target
    rw [List.mem_range'_1]
    omega
  have unwritten : (List.range' start (length - distance)).Pairwise
      fun earlier later => later + distance ≠ earlier := by
    apply (List.pairwise_lt_range' 1).imp
    intro earlier later above
    omega
  have moved := getElem?_copies cells unwritten
    (fun target member => by have := (targeted target).mp member; omega)
    fun target member => by have := (targeted target).mp member; omega
  rw [moveBack, getElem?_overlay_zeros _ (by omega), moved]
  simp only [targeted]
  by_cases kept : start ≤ position ∧ position + distance < start + length
  · rw [if_neg (by omega), if_pos kept, if_pos (by omega), if_pos kept.2]
  · by_cases within : start ≤ position ∧ position < start + length
    · rw [if_pos (by omega), if_pos within, if_neg (by omega)]
    · rw [if_neg (by omega), if_neg kept, if_neg within]

end Chip8.Cells
