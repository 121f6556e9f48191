import Chip8.Instruction.Decode
import Chip8.Proofs.Instruction.Fields

/-! The opcodes that extended mode reads in its own way. All others mean the same
in both modes, and standard mode reads none as an instruction of the extension. -/
namespace Chip8

/-- Only extended mode has the instruction. -/
def Instruction.isExtension : Instruction → Bool
  | scrollDown _ => true
  | scrollRight => true
  | scrollLeft => true
  | exit => true
  | setResolution _ => true
  | drawBig .. => true
  | pointBigDigit _ => true
  | saveFlags _ => true
  | restoreFlags _ => true
  | _ => false

namespace Opcode

/-- The opcode stands for an instruction that only extended mode has: it scrolls,
ends the program, switches the resolution, draws a big sprite, points at a big
digit, or saves or restores flags. -/
def IsExtension (opcode : Opcode) : Prop :=
  let word := opcode.word.toNat
  word / 0x10 = 0x00C ∨ 0x00FB ≤ word ∧ word ≤ 0x00FF ∨
    word / 0x1000 = 0xD ∧ word % 0x10 = 0 ∨
    word / 0x1000 = 0xF ∧ (word % 0x100 = 0x30 ∨
      (word % 0x100 = 0x75 ∨ word % 0x100 = 0x85) ∧ word / 0x100 % 0x10 < 8)

instance (opcode : Opcode) : Decidable opcode.IsExtension := by
  unfold IsExtension
  infer_instance

variable {opcode : Opcode}

theorem systemExtended_of_plain (plain : ¬ opcode.IsExtension) :
    opcode.systemExtended = .system opcode.address := by
  unfold IsExtension at plain
  unfold systemExtended
  split
  · omega
  · omega
  · omega
  · omega
  · omega
  · exact if_neg fun scrolls => plain (.inl scrolls)

theorem systemOrScreen_of_plain (plain : ¬ opcode.IsExtension) :
    opcode.systemOrScreen .extended = opcode.systemOrScreen .standard := by
  unfold systemOrScreen
  split
  · rfl
  · rfl
  · exact systemExtended_of_plain plain

theorem drawing_of_plain (plain : ¬ opcode.IsExtension) (family : opcode.family = 0xD) :
    opcode.drawing .extended = opcode.drawing .standard := by
  have high : opcode.word.toNat / 0x1000 = 0xD := family
  have rows : opcode.nibble ≠ 0 := by
    intro none
    have low := opcode.toNat_nibble
    rw [none] at low
    exact plain (.inr (.inr (.inl ⟨high, low.symm⟩)))
  exact if_neg rows

theorem transferExtended_of_plain (plain : ¬ opcode.IsExtension) (family : opcode.family = 0xF) :
    opcode.transferExtended = .unknown opcode := by
  have high : opcode.word.toNat / 0x1000 = 0xF := family
  have low := opcode.toNat_byte
  have register := opcode.val_x
  have flags : flagCount = 8 := rfl
  unfold IsExtension at plain
  unfold transferExtended
  split
  · omega
  · exact if_neg (by omega)
  · exact if_neg (by omega)
  · rfl

theorem transfer_of_plain (plain : ¬ opcode.IsExtension) (family : opcode.family = 0xF) :
    opcode.transfer .extended = opcode.transfer .standard := by
  unfold transfer
  split
  iterate 9 rfl
  exact transferExtended_of_plain plain family

/-- All but the opcodes of the extension mean the same in both modes. -/
theorem decode_of_plain (plain : ¬ opcode.IsExtension) :
    opcode.decode .extended = opcode.decode .standard := by
  have bound := opcode.family_lt
  unfold decode
  split
  · exact systemOrScreen_of_plain plain
  iterate 12 rfl
  · rename_i family
    exact drawing_of_plain plain family
  · rfl
  · apply transfer_of_plain plain
    grind

theorem isExtension_systemOrScreen_standard (opcode : Opcode) :
    (opcode.systemOrScreen .standard).isExtension = false := by
  unfold systemOrScreen
  split
  iterate 3 rfl

theorem isExtension_arithmetic (opcode : Opcode) : opcode.arithmetic.isExtension = false := by
  unfold arithmetic
  split
  · rfl
  · rfl

theorem isExtension_keyTest (opcode : Opcode) : opcode.keyTest.isExtension = false := by
  unfold keyTest
  split
  iterate 3 rfl

theorem isExtension_transfer_standard (opcode : Opcode) :
    (opcode.transfer .standard).isExtension = false := by
  unfold transfer
  split
  iterate 10 rfl

/-- Standard mode reads no opcode as an instruction of the extension. -/
theorem isExtension_decode_standard (opcode : Opcode) :
    (opcode.decode .standard).isExtension = false := by
  unfold decode
  split
  · exact opcode.isExtension_systemOrScreen_standard
  iterate 4 rfl
  · split
    · rfl
    · rfl
  iterate 2 rfl
  · exact opcode.isExtension_arithmetic
  · split
    · rfl
    · rfl
  iterate 4 rfl
  · exact opcode.isExtension_keyTest
  · exact opcode.isExtension_transfer_standard

end Opcode

end Chip8
