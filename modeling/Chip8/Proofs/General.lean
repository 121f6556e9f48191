/-! General facts, which are about no machine: what chains of fallible computations have
come to, lists that are taken apart or made of rows, numbers and bytes, and values that stand
under a condition. -/

namespace Except

theorem bind_ok {value : Except ε α} {next : α → Except ε β}
    (done : value >>= next = .ok result) : ∃ middle, value = .ok middle ∧ next middle = .ok result := by
  cases value with
  | error failure => cases done
  | ok middle => exact ⟨middle, rfl, done⟩

theorem bind_return {value : Except ε α} {change : α → β}
    (done : (do return change (← value)) = .ok result) :
    ∃ middle, value = .ok middle ∧ result = change middle := by
  obtain ⟨middle, found, same⟩ := bind_ok done
  exact ⟨middle, found, (Except.ok.inj same).symm⟩

theorem bind_error {value : Except ε α} {next : α → Except ε β}
    (failed : value >>= next = .error reason) :
    value = .error reason ∨ ∃ middle, value = .ok middle ∧ next middle = .error reason := by
  cases value with
  | error first => exact .inl (congrArg Except.error (Except.error.inj failed))
  | ok middle => exact .inr ⟨middle, rfl, failed⟩

theorem bind_return_error {value : Except ε α} {change : α → β}
    (failed : (do return change (← value)) = .error reason) : value = .error reason := by
  rcases bind_error failed with first | ⟨middle, _, returned⟩
  · exact first
  · cases returned

theorem bind_map {value : Except ε α} {next : α → Except ε β} {other : α → Except ε γ}
    {change : β → γ} (each : ∀ middle, other middle = (next middle).map change) :
    value >>= other = (value >>= next).map change := by
  cases value with
  | error reason => rfl
  | ok middle => exact each middle

end Except

namespace List

theorem length_flatten_of_even {rows : List (List α)} {length : Nat}
    (even : ∀ row ∈ rows, row.length = length) : rows.flatten.length = length * rows.length := by
  induction rows with
  | nil => rfl
  | cons row rest ih =>
    have others := ih fun other member => even other (mem_cons_of_mem row member)
    rw [flatten_cons, length_append, length_cons, even row mem_cons_self, others, Nat.mul_succ,
      Nat.add_comm]

/-- Rows of one length are found in their concatenation by their number. -/
theorem getElem?_flatten_of_even {rows : List (List α)} {length : Nat}
    (even : ∀ row ∈ rows, row.length = length) (number : Nat) {offset : Nat} (short : offset < length) :
    rows.flatten[length * number + offset]? = rows[number]?.bind (·[offset]?) := by
  induction rows generalizing number with
  | nil => rfl
  | cons row rest ih =>
    have first : row.length = length := even row mem_cons_self
    have others : ∀ other ∈ rest, other.length = length :=
      fun other member => even other (mem_cons_of_mem row member)
    cases number with
    | zero =>
      have within : offset < row.length := first ▸ short
      simp [getElem?_append_left within]
    | succ previous =>
      have beyond : row.length ≤ length * (previous + 1) + offset := by
        rw [first, Nat.mul_succ]
        omega
      have shifted : length * (previous + 1) + offset - row.length = length * previous + offset := by
        rw [first, Nat.mul_succ]
        omega
      rw [flatten_cons, getElem?_append_right beyond, shifted, ih others]
      rfl

/-- Where a prefix of a longer list ends: at its head, or further on. -/
theorem concat_prefix_cons {first rest : List α} {last next : α} :
    first ++ [last] <+: next :: rest ↔ (first = [] ∧ last = next) ∨
      ∃ others, first = next :: others ∧ others ++ [last] <+: rest := by
  cases first with
  | nil => simp
  | cons head others =>
    constructor
    · intro part
      obtain ⟨same, further⟩ := cons_prefix_cons.mp part
      exact .inr ⟨others, congrArg (· :: others) same, further⟩
    · rintro (⟨empty, _⟩ | ⟨tail, same, further⟩)
      · cases empty
      · cases same
        exact cons_prefix_cons.mpr ⟨rfl, further⟩

theorem filter_intercalate (keep : α → Bool) (gap : List α) (parts : List (List α)) :
    (gap.intercalate parts).filter keep =
      (gap.filter keep).intercalate (parts.map (·.filter keep)) := by
  induction parts with
  | nil => rfl
  | cons part rest ih =>
    cases rest with
    | nil => simp
    | cons next rest =>
      rw [map_cons] at ih
      rw [intercalate_cons_cons, filter_append, filter_append, ih, map_cons,
        map_cons, intercalate_cons_cons]

end List

namespace Nat

/-- A decimal number has a digit, and nothing else. -/
theorem isDigit_of_mem_repr (member : character ∈ (Nat.repr number).toList) :
    character.isDigit = true := by
  rw [toList_repr] at member
  exact isDigit_of_mem_toDigits (by decide) (by decide) member

/-- A decimal number is read back from its digits. -/
theorem ofDigitChars_repr (number : Nat) : ofDigitChars 10 (Nat.repr number).toList 0 = number := by
  rw [toList_repr]
  exact ofDigitChars_toDigits (by decide) (by decide)

end Nat

namespace UInt8

theorem xor_one_xor_one (byte : UInt8) : byte ^^^ 1 ^^^ 1 = byte := by
  rw [UInt8.xor_assoc, UInt8.xor_self, UInt8.xor_zero]

theorem emod_toNat (byte : UInt8) : (byte.toNat : Int) % 256 = byte.toNat := by
  have bound := byte.toNat_lt
  omega

/-- The bits of two bytes in a row: the first eight are those of the high byte. -/
theorem testBit_pair (high low : UInt8) {column : Nat} (inside : column < 16) :
    (high.toNat * 0x100 + low.toNat).testBit (15 - column) =
      if column < 8 then high.toNat.testBit (7 - column)
      else low.toNat.testBit (7 - (column - 8)) := by
  have split := Nat.testBit_two_pow_mul_add high.toNat low.toNat_lt (15 - column)
  rw [Nat.mul_comm] at split
  rw [show 0x100 = 2 ^ 8 from rfl, split]
  by_cases left : column < 8
  · rw [if_pos left, if_neg (by omega), show 15 - column - 8 = 7 - column by omega]
  · rw [if_neg left, if_pos (by omega), show 15 - column = 7 - (column - 8) by omega]

end UInt8

namespace Option

variable {condition : Prop} [Decidable condition]

theorem getD_ite (value other : α) :
    (if condition then some value else none).getD other = if condition then value else other := by
  split
  · rfl
  · rfl

theorem getD_map_guard (value : α) (image : α → β) (other : β) :
    ((if condition then some value else none).map image).getD other =
      if condition then image value else other := by
  split
  · rfl
  · rfl

end Option
