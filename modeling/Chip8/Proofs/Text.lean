import Chip8.Proofs.General
import Chip8.Text.Hex
import Mathlib.Algebra.Group.Nat.Defs

/-! Written numbers and lists can be read back. The digits of a number tell its value, and the
parts of a list are told apart by the marks between them. -/
namespace Chip8.Text

theorem hexDigit_inj : ∀ first < 16, ∀ last < 16, hexDigit first = hexDigit last → first = last := by
  decide

theorem length_hexDigits (width value : Nat) : (hexDigits width value).length = width := by
  induction width generalizing value with
  | zero => rfl
  | succ width ih => rw [hexDigits, List.length_append, ih, List.length_singleton]

theorem exists_of_mem_hexDigits (member : character ∈ hexDigits width value) :
    ∃ digit < 16, character = hexDigit digit := by
  induction width generalizing value with
  | zero => cases member
  | succ width ih =>
    rcases List.mem_append.mp member with higher | lowest
    · exact ih higher
    · exact ⟨value % 16, Nat.mod_lt value (by decide), List.mem_singleton.mp lowest⟩

theorem hexDigits_inj (first : value < 16 ^ width) (last : other < 16 ^ width)
    (same : hexDigits width value = hexDigits width other) : value = other := by
  induction width generalizing value other with
  | zero =>
    rw [Nat.pow_zero] at first last
    omega
  | succ width ih =>
    rw [Nat.pow_succ'] at first last
    obtain ⟨higher, lowest⟩ := List.append_inj' same rfl
    have upper := ih (Nat.div_lt_of_lt_mul first) (Nat.div_lt_of_lt_mul last) higher
    have lower := hexDigit_inj _ (Nat.mod_lt value (by decide)) _ (Nat.mod_lt other (by decide))
      (List.singleton_inj.mp lowest)
    omega

theorem lt_pow_hexLength (value : Nat) : value < 16 ^ hexLength value := by
  have digits : value.log2 + 1 ≤ 4 * hexLength value := by
    unfold hexLength
    omega
  calc value < 2 ^ (value.log2 + 1) := Nat.lt_log2_self
    _ ≤ 2 ^ (4 * hexLength value) := Nat.pow_le_pow_right (by decide) digits
    _ = 16 ^ hexLength value := Nat.pow_mul 2 4 _

theorem hexLength_le (positive : 0 < width) (short : value < 16 ^ width) : hexLength value ≤ width := by
  by_cases zero : value = 0
  · subst zero
    exact positive
  · rw [show 16 ^ width = 2 ^ (4 * width) from (Nat.pow_mul 2 4 width).symm] at short
    have bits := (Nat.log2_lt zero).mpr short
    unfold hexLength
    omega

theorem toList_hex (width value : Nat) :
    (hex width value).toList = hexDigits (max width (hexLength value)) value := String.toList_ofList

/-- A number that fits in the least width has just that many digits. -/
theorem length_hex (positive : 0 < width) (short : value < 16 ^ width) :
    (hex width value).toList.length = width := by
  rw [toList_hex, length_hexDigits, Nat.max_eq_left (hexLength_le positive short)]

theorem lt_pow_max_hexLength (width value : Nat) : value < 16 ^ (max width (hexLength value)) :=
  Nat.lt_of_lt_of_le (lt_pow_hexLength value)
    (Nat.pow_le_pow_right (by decide) (Nat.le_max_right width (hexLength value)))

/-- No two numbers are written alike, whatever zeros they are padded with. -/
theorem hex_inj (same : hex width value = hex width other) : value = other := by
  have digits := congrArg String.toList same
  rw [toList_hex, toList_hex] at digits
  have lengths := congrArg List.length digits
  rw [length_hexDigits, length_hexDigits] at lengths
  have first := lt_pow_max_hexLength width value
  rw [lengths] at first digits
  exact hexDigits_inj first (lt_pow_max_hexLength width other) digits

/-- What can stand between the gaps of a text. -/
abbrev IsWord (text : List Char) : Prop := ',' ∉ text ∧ ' ' ∉ text

theorem isWord_append (first : IsWord text) (last : IsWord further) : IsWord (text ++ further) := by
  constructor
  · exact List.not_mem_append first.1 last.1
  · exact List.not_mem_append first.2 last.2

theorem hexDigit_ne : ∀ digit < 16, ',' ≠ hexDigit digit ∧ ' ' ≠ hexDigit digit := by decide

theorem isWord_hex (width value : Nat) : IsWord (hex width value).toList := by
  rw [toList_hex]
  constructor
  · intro member
    obtain ⟨digit, bound, same⟩ := exists_of_mem_hexDigits member
    exact (hexDigit_ne digit bound).1 same
  · intro member
    obtain ⟨digit, bound, same⟩ := exists_of_mem_hexDigits member
    exact (hexDigit_ne digit bound).2 same

theorem isWord_repr (number : Nat) : IsWord (Nat.repr number).toList :=
  ⟨fun member => absurd (Nat.isDigit_of_mem_repr member) (by decide),
    fun member => absurd (Nat.isDigit_of_mem_repr member) (by decide)⟩

/-- Reads the words of a text, which stand between blanks; commas are left out. -/
def words (text : List Char) : List (List Char) := (text.filter (· != ',')).splitOn ' '

theorem filter_word {word : List Char} (plain : IsWord word) : word.filter (· != ',') = word := by
  apply List.filter_eq_self.mpr
  intro character member
  exact bne_iff_ne.mpr fun comma => plain.1 (comma ▸ member)

theorem filter_words {parts : List (List Char)} (plain : ∀ part ∈ parts, IsWord part) :
    parts.map (·.filter (· != ',')) = parts :=
  (List.map_congr_left fun part member => filter_word (plain part member)).trans (List.map_id parts)

/-- A name alone. -/
theorem words_name {name : List Char} (plain : IsWord name) : words name = [name] := by
  have alone := List.splitOn_intercalate ' ' (fun word member => List.mem_singleton.mp member ▸ plain.2)
    (List.cons_ne_nil name [])
  rw [List.intercalate_singleton] at alone
  rw [words, filter_word plain, alone]

/-- A name and what is listed after it. -/
theorem words_list {name : List Char} {parts : List (List Char)} (plain : IsWord name)
    (listed : ∀ part ∈ parts, IsWord part) (some : parts ≠ []) :
    words (name ++ ' ' :: [',', ' '].intercalate parts) = name :: parts := by
  have spread : (name ++ ' ' :: [',', ' '].intercalate parts).filter (· != ',') =
      [' '].intercalate (name :: parts) := by
    rw [List.filter_append, List.filter_cons_of_pos (by decide), List.filter_intercalate,
      filter_word plain, filter_words listed, List.intercalate_cons_of_ne_nil some, List.append_assoc]
    rfl
  have unbroken : ∀ word ∈ name :: parts, ' ' ∉ word := by
    intro word member
    rcases List.mem_cons.mp member with first | later
    · exact first ▸ plain.2
    · exact (listed word later).2
  rw [words, spread, List.splitOn_intercalate ' ' unbroken (List.cons_ne_nil name parts)]

end Chip8.Text
