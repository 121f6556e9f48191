import Chip8.Proofs.Cells
import Chip8.Proofs.General
import Chip8.Proofs.Memory

/-! What memory holds when a program starts: the glyphs of both fonts, the bytes
of the program, and zeros everywhere else. The three do not overlap. -/
namespace Chip8

namespace Font

/-- The two fonts that lie in memory. -/
def builtIn : List Font := [small, big]

/-- A byte of the glyph of a digit, counted from the top. -/
def row? (font : Font) (digit : UInt8) (row : Nat) : Option UInt8 :=
  font.glyphs[digit.toNat % 16]?.bind (·[row]?)

/-- A place that belongs to the glyph of some digit. -/
def Covers (font : Font) (position : Nat) : Prop :=
  ∃ digit : UInt8, font.glyphAddress digit ≤ position ∧
    position < font.glyphAddress digit + font.height

/-- There is one glyph for each digit, and all have one height. -/
structure Regular (font : Font) : Prop where
  digits : font.glyphs.length = 16
  even : ∀ glyph ∈ font.glyphs, glyph.length = font.height
  positive : 0 < font.height

theorem small_regular : small.Regular := ⟨rfl, by decide, by decide⟩

theorem big_regular : big.Regular := ⟨rfl, by decide, by decide⟩

variable {font : Font}

theorem Regular.length_bytes (regular : font.Regular) : font.bytes.length = font.height * 16 := by
  rw [bytes, List.length_flatten_of_even regular.even, regular.digits]

/-- The glyphs fill the whole of their font, without a gap between them. -/
theorem Regular.covers_iff (regular : font.Regular) (position : Nat) :
    font.Covers position ↔
      font.start ≤ position ∧ position < font.start + font.bytes.length := by
  rw [regular.length_bytes]
  constructor
  · rintro ⟨digit, after, before⟩
    have low : digit.toNat % 16 + 1 ≤ 16 := Nat.mod_lt digit.toNat (by decide)
    have bound := Nat.mul_le_mul_left font.height low
    rw [Nat.mul_succ] at bound
    unfold glyphAddress at after before
    omega
  · rintro ⟨after, before⟩
    have whole := Nat.div_add_mod (position - font.start) font.height
    have rest := Nat.mod_lt (position - font.start) regular.positive
    have digit : (position - font.start) / font.height < 16 := Nat.div_lt_of_lt_mul (by omega)
    have byte : (UInt8.ofNat ((position - font.start) / font.height)).toNat % 16 =
        (position - font.start) / font.height := by
      rw [UInt8.toNat_ofNat_of_lt' (Nat.lt_trans digit (by decide)), Nat.mod_eq_of_lt digit]
    refine ⟨.ofNat ((position - font.start) / font.height), ?_, ?_⟩
    · rw [glyphAddress, byte]
      omega
    · rw [glyphAddress, byte]
      omega

theorem glyph_covers (font : Font) (digit : UInt8) {row : Nat} (inside : row < font.height) :
    font.Covers (font.glyphAddress digit + row) :=
  ⟨digit, Nat.le_add_right _ _, Nat.add_lt_add_left inside _⟩

/-- Where a font was laid down its glyphs are found. -/
theorem Regular.getElem?_overlay (regular : font.Regular) {size : Nat} (cells : Vector UInt8 size)
    (fits : font.start + font.bytes.length ≤ size) (digit : UInt8) {row : Nat}
    (inside : row < font.height) :
    (Cells.overlay cells font.start font.bytes)[font.glyphAddress digit + row]? =
      font.row? digit row := by
  have place : font.glyphAddress digit + row =
      font.start + (font.height * (digit.toNat % 16) + row) := Nat.add_assoc _ _ _
  have covered := ((regular.covers_iff _).mp (font.glyph_covers digit inside)).2
  rw [place] at covered ⊢
  rw [Cells.getElem?_overlay_of_covered cells (Nat.lt_of_add_lt_add_left covered)
    (Nat.lt_of_lt_of_le covered fits)]
  exact List.getElem?_flatten_of_even regular.even (digit.toNat % 16) inside

/-- The small font ends where the big one starts. -/
theorem small_end : small.start + small.bytes.length = 0xA0 := by
  rw [small_regular.length_bytes]
  rfl

theorem big_end : big.start + big.bytes.length = 0x140 := by
  rw [big_regular.length_bytes]
  rfl

/-- Both fonts lie below the place where programs start. -/
theorem lt_programStart_of_covers (builtIn : font ∈ builtIn) (covered : font.Covers position) :
    position < programStart := by
  rcases List.mem_cons.mp builtIn with same | other
  · subst same
    have before := ((small_regular.covers_iff position).mp covered).2
    rw [small_end] at before
    exact Nat.lt_trans before (by decide)
  · cases List.mem_singleton.mp other
    have before := ((big_regular.covers_iff position).mp covered).2
    rw [big_end] at before
    exact Nat.lt_trans before (by decide)

end Font

namespace Memory

/-- Memory as it is when a program starts that consists of these bytes. -/
structure Image (memory : Memory) (bytes : List UInt8) : Prop where
  glyphs : ∀ font ∈ Font.builtIn, ∀ (digit : UInt8) (row : Nat), row < font.height →
    memory.cells[font.glyphAddress digit + row]? = font.row? digit row
  program : ∀ offset, offset < bytes.length →
    memory.cells[programStart + offset]? = bytes[offset]?
  zeros : ∀ position, position < memorySize → (∀ font ∈ Font.builtIn, ¬ font.Covers position) →
    ¬ (programStart ≤ position ∧ position < programStart + bytes.length) →
    memory.cells[position]? = some 0

theorem getElem?_withProgram_of_lt (program : Program) {position : Nat}
    (below : position < programStart) :
    (withProgram program).cells[position]? = blank.cells[position]? := by
  apply Cells.getElem?_overlay_of_uncovered
  intro covered
  exact Nat.not_lt.mpr covered.1 below

theorem getElem?_blank_of_covers (builtIn : font ∈ Font.builtIn) (digit : UInt8) {row : Nat}
    (inside : row < font.height) :
    blank.cells[font.glyphAddress digit + row]? = font.row? digit row := by
  rcases List.mem_cons.mp builtIn with same | other
  · subst same
    have before := ((Font.small_regular.covers_iff _).mp (Font.small.glyph_covers digit inside)).2
    rw [Font.small_end] at before
    have uncovered : ¬ (Font.big.start ≤ Font.small.glyphAddress digit + row ∧
        Font.small.glyphAddress digit + row < Font.big.start + Font.big.bytes.length) :=
      fun covered => Nat.not_lt.mpr covered.1 before
    exact (Cells.getElem?_overlay_of_uncovered _ uncovered).trans
      (Font.small_regular.getElem?_overlay _ (by rw [Font.small_end]; decide) digit inside)
  · cases List.mem_singleton.mp other
    exact Font.big_regular.getElem?_overlay _ (by rw [Font.big_end]; decide) digit inside

theorem getElem?_blank_of_not_covers {position : Nat} (inside : position < memorySize)
    (bare : ∀ font ∈ Font.builtIn, ¬ font.Covers position) : blank.cells[position]? = some 0 := by
  have small := bare .small List.mem_cons_self
  have big := bare .big (List.mem_cons_of_mem _ List.mem_cons_self)
  rw [Font.small_regular.covers_iff] at small
  rw [Font.big_regular.covers_iff] at big
  have zero : (Vector.replicate memorySize (0 : UInt8))[position]? = some 0 := by
    rw [Vector.getElem?_replicate, if_pos inside]
  exact (Cells.getElem?_overlay_of_uncovered _ big).trans
    ((Cells.getElem?_overlay_of_uncovered _ small).trans zero)

theorem image_withProgram (program : Program) : (withProgram program).Image program.bytes where
  glyphs font builtIn digit row inside := by
    have below := Font.lt_programStart_of_covers builtIn (font.glyph_covers digit inside)
    rw [getElem?_withProgram_of_lt program below]
    exact getElem?_blank_of_covers builtIn digit inside
  program offset loaded := by
    have size : program.bytes.length ≤ 0xE00 := program.fits
    have reached : 0x200 + offset < 0x1000 := by omega
    exact Cells.getElem?_overlay_of_covered blank.cells loaded reached
  zeros position inside bare outside :=
    (Cells.getElem?_overlay_of_uncovered blank.cells outside).trans
      (getElem?_blank_of_not_covers inside bare)

end Memory

end Chip8
