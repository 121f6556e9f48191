import Chip8.Proofs.Instruction.Extension

/-! Opcodes and instructions are the same thing twice. No opcode loses anything when it
is read, and an instruction that the table of a mode lists is read back from its opcode;
no other one is. -/
namespace Chip8

/-- No other instruction of the mode has taken the address as its opcode. -/
def Address.IsSystem (mode : Mode) (address : Address) : Prop :=
  address.toNat ≠ 0x0E0 ∧ address.toNat ≠ 0x0EE ∧
    (mode = .extended →
      address.toNat / 0x10 ≠ 0x0C ∧ ¬ (0x0FB ≤ address.toNat ∧ address.toNat ≤ 0x0FF))

/-- The table of a mode has the instruction, with operands that fit in its opcode. -/
def Instruction.Listed (mode : Mode) : Instruction → Prop
  | system address => address.IsSystem mode
  | scrollDown rows => mode = .extended ∧ rows.toNat < 0x10
  | scrollRight => mode = .extended
  | scrollLeft => mode = .extended
  | exit => mode = .extended
  | setResolution _ => mode = .extended
  | jumpOffset x target => x.val = target.toNat / 0x100
  | draw _ _ rows => rows.toNat < 0x10 ∧ (rows = 0 → mode = .standard)
  | drawBig .. => mode = .extended
  | pointBigDigit _ => mode = .extended
  | saveFlags last => mode = .extended ∧ last.val < 8
  | restoreFlags last => mode = .extended ∧ last.val < 8
  | unknown _ => False
  | _ => True

theorem Arithmetic.selector_of_ofSelector? {selector : Nat} {operation : Arithmetic}
    (selected : ofSelector? selector = some operation) : operation.selector.toNat = selector := by
  unfold ofSelector? at selected
  split at selected
  iterate 9
    cases selected
    rfl
  cases selected

namespace Opcode

variable {mode : Mode} {opcode : Opcode}

theorem decode_system {address : Address} (free : address.IsSystem mode) :
    (Instruction.system address).encode.decode mode = .system address := by
  obtain ⟨notClear, notRet, notExtended⟩ := free
  have word : (ofAddress 0x0 address).word.toNat = address.toNat :=
    (toNat_ofAddress (by decide) address).trans (by omega)
  have family : (ofAddress 0x0 address).family = 0x0 := family_ofAddress (by decide) address
  have target : (ofAddress 0x0 address).address = address := address_ofAddress (by decide) address
  simp only [Instruction.encode, decode, family, systemOrScreen, word, target]
  cases mode with
  | standard => rfl
  | extended =>
    obtain ⟨notDown, notListed⟩ := notExtended rfl
    simp only [systemExtended, word, target]
    split
    iterate 5 omega
    exact if_neg notDown

theorem decode_scrollDown {rows : UInt8} (low : rows.toNat < 0x10) :
    (Instruction.scrollDown rows).encode.decode .extended = .scrollDown rows := by
  have small : rows % 0x10 = rows := UInt8.toNat_inj.mp (Nat.mod_eq_of_lt low)
  have short : 0x0 < 0x10 := by decide
  have family := family_ofPair short (.ofNat 0x0) (.ofNat 0xC) rows
  have nibble := nibble_ofPair short (.ofNat 0x0) (.ofNat 0xC) rows
  have word : (ofPair 0x0 (.ofNat 0x0) (.ofNat 0xC) rows).word.toNat = 0x0C0 + rows.toNat % 0x10 :=
    toNat_ofPair short (.ofNat 0x0) (.ofNat 0xC) rows
  simp only [Instruction.encode, decode, family, systemOrScreen]
  generalize ofPair 0x0 (.ofNat 0x0) (.ofNat 0xC) rows = opcode at word nibble
  split
  · omega
  · omega
  · simp only [systemExtended, nibble, small]
    split
    iterate 5 omega
    exact if_pos (by omega)

theorem decode_draw {x y : Register} {rows : UInt8} (low : rows.toNat < 0x10)
    (some : rows = 0 → mode = .standard) :
    (Instruction.draw x y rows).encode.decode mode = .draw x y rows := by
  have nibble : rows % 0x10 = rows := UInt8.toNat_inj.mp (Nat.mod_eq_of_lt low)
  cases mode with
  | standard => simp [Instruction.encode, decode, drawing, nibble]
  | extended =>
    have drawn : rows ≠ 0 := fun none => Mode.noConfusion (some none)
    simp [Instruction.encode, decode, drawing, nibble, drawn]

/-- A listed instruction is read back from its opcode. -/
theorem decode_encode {instruction : Instruction} (listed : instruction.Listed mode) :
    instruction.encode.decode mode = instruction := by
  cases instruction with
  | system address => exact decode_system listed
  | scrollDown rows =>
    obtain ⟨rfl, low⟩ := listed
    exact decode_scrollDown low
  | scrollRight => cases listed; rfl
  | scrollLeft => cases listed; rfl
  | clear => rfl
  | setResolution resolution =>
    cases listed
    cases resolution with
    | low => rfl
    | high => rfl
  | ret => rfl
  | exit => cases listed; rfl
  | jump target => simp [Instruction.encode, decode]
  | call target => simp [Instruction.encode, decode]
  | jumpOffset x target =>
    have register : (ofAddress 0xB target).x = x :=
      Fin.ext ((val_x_ofAddress (by decide) target).trans listed.symm)
    simp [Instruction.encode, decode, register]
  | skip condition =>
    cases condition <;> simp [Instruction.encode, Condition.encode, decode, keyTest]
  | loadByte x byte => simp [Instruction.encode, decode]
  | addByte x byte => simp [Instruction.encode, decode]
  | arithmetic operation x y =>
    cases operation <;>
      simp [Instruction.encode, decode, arithmetic, Arithmetic.selector, Arithmetic.ofSelector?]
  | setIndex address => simp [Instruction.encode, decode]
  | addIndex x => simp [Instruction.encode, decode, transfer]
  | random x mask => simp [Instruction.encode, decode]
  | draw x y rows => exact decode_draw listed.1 listed.2
  | drawBig x y => cases listed; simp [Instruction.encode, decode, drawing]
  | readDelay x => simp [Instruction.encode, decode, transfer]
  | awaitKey x => simp [Instruction.encode, decode, transfer]
  | setDelay x => simp [Instruction.encode, decode, transfer]
  | setSound x => simp [Instruction.encode, decode, transfer]
  | pointDigit x => simp [Instruction.encode, decode, transfer]
  | pointBigDigit x => cases listed; simp [Instruction.encode, decode, transfer, transferExtended]
  | storeDigits x => simp [Instruction.encode, decode, transfer]
  | storeRegisters last => simp [Instruction.encode, decode, transfer]
  | loadRegisters last => simp [Instruction.encode, decode, transfer]
  | saveFlags last =>
    obtain ⟨rfl, low⟩ := listed
    simp [Instruction.encode, decode, transfer, transferExtended, low]
  | restoreFlags last =>
    obtain ⟨rfl, low⟩ := listed
    simp [Instruction.encode, decode, transfer, transferExtended, low]
  | unknown opcode => cases listed

/-- How an opcode may be read: as a listed instruction whose opcode it is, or as none. -/
inductive Reads (mode : Mode) (opcode : Opcode) : Instruction → Prop where
  | listed {instruction : Instruction} (listed : instruction.Listed mode)
      (same : instruction.encode = opcode) : Reads mode opcode instruction
  | unknown : Reads mode opcode (.unknown opcode)

theorem nibble_lt (opcode : Opcode) : opcode.nibble.toNat < 0x10 := by
  rw [toNat_nibble]
  omega

theorem encode_scrollDown_nibble (scrolls : opcode.word.toNat / 0x10 = 0x0C) :
    (Instruction.scrollDown opcode.nibble).encode = opcode := by
  have word : (ofPair 0x0 (.ofNat 0x0) (.ofNat 0xC) opcode.nibble).word.toNat =
      0x0C0 + opcode.nibble.toNat % 0x10 := toNat_ofPair (by decide) _ _ _
  refine eq_of_toNat (word.trans ?_)
  rw [toNat_nibble]
  omega

theorem reads_systemExtended (family : opcode.family = 0x0)
    (notClear : opcode.word.toNat ≠ 0x00E0) (notRet : opcode.word.toNat ≠ 0x00EE) :
    opcode.Reads .extended opcode.systemExtended := by
  have high : opcode.word.toNat / 0x1000 = 0 := family
  have low := opcode.toNat_address
  unfold systemExtended
  split
  iterate 5
    rename_i word
    exact .listed rfl (eq_of_toNat word.symm)
  · split
    · rename_i scrolls
      exact .listed ⟨rfl, opcode.nibble_lt⟩ (encode_scrollDown_nibble scrolls)
    · rename_i notRight notLeft notExit notLow notHigh notDown
      rw [imp_false] at notRight notLeft notExit notLow notHigh
      have free : opcode.address.IsSystem .extended := by
        unfold Address.IsSystem
        refine ⟨?_, ?_, fun _ => ⟨?_, ?_⟩⟩
        iterate 4 omega
      exact .listed free (ofAddress_address family)

theorem reads_systemOrScreen (family : opcode.family = 0x0) :
    opcode.Reads mode (opcode.systemOrScreen mode) := by
  have high : opcode.word.toNat / 0x1000 = 0 := family
  have low := opcode.toNat_address
  unfold systemOrScreen
  split
  · rename_i word
    exact .listed trivial (eq_of_toNat word.symm)
  · rename_i word
    exact .listed trivial (eq_of_toNat word.symm)
  · rename_i notClear notRet
    cases mode with
    | standard =>
      have free : opcode.address.IsSystem .standard := by
        unfold Address.IsSystem
        refine ⟨fun clear => notClear ?_, fun ret => notRet ?_, nofun⟩
        · omega
        · omega
      exact .listed free (ofAddress_address family)
    | extended => exact reads_systemExtended family notClear notRet

theorem reads_arithmetic (family : opcode.family = 0x8) : opcode.Reads mode opcode.arithmetic := by
  unfold arithmetic
  split
  · rename_i operation selected
    have selector := UInt8.toNat_inj.mp (Arithmetic.selector_of_ofSelector? selected)
    exact .listed trivial (ofPair_of_nibble family selector.symm)
  · exact .unknown

theorem reads_drawing (family : opcode.family = 0xD) : opcode.Reads mode (opcode.drawing mode) := by
  cases mode with
  | standard => exact .listed ⟨opcode.nibble_lt, fun _ => rfl⟩ (ofPair_nibble family)
  | extended =>
    by_cases none : opcode.nibble = 0
    · have big : opcode.drawing .extended = .drawBig opcode.x opcode.y := if_pos none
      rw [big]
      exact .listed rfl (ofPair_of_nibble family none)
    · have rows : opcode.drawing .extended = .draw opcode.x opcode.y opcode.nibble := if_neg none
      rw [rows]
      exact .listed ⟨opcode.nibble_lt, fun zero => absurd zero none⟩ (ofPair_nibble family)

theorem reads_keyTest (family : opcode.family = 0xE) : opcode.Reads mode opcode.keyTest := by
  unfold keyTest
  split
  · rename_i low
    exact .listed trivial (ofByte_of_toNat family low)
  · rename_i low
    exact .listed trivial (ofByte_of_toNat family low)
  · exact .unknown

theorem reads_transferExtended (family : opcode.family = 0xF) :
    opcode.Reads .extended opcode.transferExtended := by
  unfold transferExtended
  split
  · rename_i low
    exact .listed rfl (ofByte_of_toNat family low)
  · rename_i low
    split
    · rename_i flags
      exact .listed ⟨rfl, flags⟩ (ofByte_of_toNat family low)
    · exact .unknown
  · rename_i low
    split
    · rename_i flags
      exact .listed ⟨rfl, flags⟩ (ofByte_of_toNat family low)
    · exact .unknown
  · exact .unknown

theorem reads_transfer (family : opcode.family = 0xF) :
    opcode.Reads mode (opcode.transfer mode) := by
  unfold transfer
  split
  iterate 9
    rename_i low
    exact .listed trivial (ofByte_of_toNat family low)
  cases mode with
  | standard => exact .unknown
  | extended => exact reads_transferExtended family

theorem reads_pair {n : Nat} {condition : Register → Register → Condition}
    (pattern : ∀ x y, (condition x y).encode = ofPair n x y 0) (family : opcode.family = n) :
    opcode.Reads mode
      (if opcode.nibble = 0 then .skip (condition opcode.x opcode.y) else .unknown opcode) := by
  split
  · rename_i none
    exact .listed trivial ((pattern _ _).trans (ofPair_of_nibble family none))
  · exact .unknown

/-- Decoding either finds a listed instruction with this opcode or names the opcode. -/
theorem reads_decode (mode : Mode) (opcode : Opcode) : opcode.Reads mode (opcode.decode mode) := by
  have bound := opcode.family_lt
  unfold decode
  split
  · rename_i family
    exact reads_systemOrScreen family
  iterate 2
    rename_i family
    exact .listed trivial (ofAddress_address family)
  iterate 2
    rename_i family
    exact .listed trivial (ofByte_byte family)
  · rename_i family
    exact reads_pair (fun _ _ => rfl) family
  iterate 2
    rename_i family
    exact .listed trivial (ofByte_byte family)
  · rename_i family
    exact reads_arithmetic family
  · rename_i family
    exact reads_pair (fun _ _ => rfl) family
  · rename_i family
    exact .listed trivial (ofAddress_address family)
  · rename_i family
    have register : opcode.x.val = opcode.address.toNat / 0x100 := by
      rw [val_x, toNat_address]
      omega
    exact .listed register (ofAddress_address family)
  · rename_i family
    exact .listed trivial (ofByte_byte family)
  · rename_i family
    exact reads_drawing family
  · rename_i family
    exact reads_keyTest family
  · apply reads_transfer
    -- the other fifteen families are excluded one by one
    grind

theorem Reads.encode {instruction : Instruction} (reads : opcode.Reads mode instruction) :
    instruction.encode = opcode := by
  cases reads with
  | listed listed same => exact same
  | unknown => rfl

theorem encode_decode (mode : Mode) (opcode : Opcode) : (opcode.decode mode).encode = opcode :=
  (reads_decode mode opcode).encode

theorem decode_injective {first last : Opcode} (same : first.decode mode = last.decode mode) :
    first = last := by
  rw [← encode_decode mode first, same, encode_decode]

theorem saveFlags_of_decode {last : Register} (decoded : opcode.decode mode = .saveFlags last) :
    opcode = .ofByte 0xF last 0x75 := by
  rw [← encode_decode mode opcode, decoded, Instruction.encode]

theorem decode_of_unnamed
    (unnamed : ∀ named : Instruction, named.Listed mode → named.encode ≠ opcode) :
    opcode.decode mode = .unknown opcode := by
  have reads := reads_decode mode opcode
  generalize opcode.decode mode = instruction at reads
  cases reads with
  | listed listed same => exact absurd same (unnamed instruction listed)
  | unknown => rfl

theorem unnamed_of_decode (decoded : opcode.decode mode = .unknown opcode) :
    ∀ named : Instruction, named.Listed mode → named.encode ≠ opcode := by
  intro named listed same
  have back := decode_encode listed
  rw [same, decoded] at back
  rw [← back] at listed
  exact listed

theorem exists_listed_of_isExtension (extension : opcode.IsExtension) :
    ∃ instruction : Instruction, instruction.Listed .extended ∧
      instruction.isExtension = true ∧ instruction.encode = opcode := by
  obtain scrolls | screen | ⟨family, none⟩ | ⟨family, digit | ⟨flags, low⟩⟩ := extension
  · exact ⟨.scrollDown opcode.nibble, ⟨rfl, opcode.nibble_lt⟩, rfl,
      encode_scrollDown_nibble scrolls⟩
  · obtain right | left | exit | low | high : opcode.word.toNat = 0x00FB ∨
        opcode.word.toNat = 0x00FC ∨ opcode.word.toNat = 0x00FD ∨
        opcode.word.toNat = 0x00FE ∨ opcode.word.toNat = 0x00FF := by omega
    · exact ⟨.scrollRight, rfl, rfl, eq_of_toNat right.symm⟩
    · exact ⟨.scrollLeft, rfl, rfl, eq_of_toNat left.symm⟩
    · exact ⟨.exit, rfl, rfl, eq_of_toNat exit.symm⟩
    · exact ⟨.setResolution .low, rfl, rfl, eq_of_toNat low.symm⟩
    · exact ⟨.setResolution .high, rfl, rfl, eq_of_toNat high.symm⟩
  · have rows : opcode.nibble = 0 := UInt8.toNat_inj.mp ((opcode.toNat_nibble).trans none)
    exact ⟨.drawBig opcode.x opcode.y, rfl, rfl, ofPair_of_nibble family rows⟩
  · exact ⟨.pointBigDigit opcode.x, rfl, rfl,
      ofByte_of_toNat family (opcode.toNat_byte.trans digit)⟩
  · obtain save | restore := flags
    · exact ⟨.saveFlags opcode.x, ⟨rfl, low⟩, rfl,
        ofByte_of_toNat family (opcode.toNat_byte.trans save)⟩
    · exact ⟨.restoreFlags opcode.x, ⟨rfl, low⟩, rfl,
        ofByte_of_toNat family (opcode.toNat_byte.trans restore)⟩

theorem isExtension_decode_extended (extension : opcode.IsExtension) :
    (opcode.decode .extended).isExtension = true := by
  obtain ⟨instruction, listed, own, same⟩ := exists_listed_of_isExtension extension
  rw [← same, decode_encode listed]
  exact own

theorem decode_ne_iff (opcode : Opcode) :
    opcode.decode .standard ≠ opcode.decode .extended ↔ opcode.IsExtension := by
  constructor
  · intro different
    apply Decidable.byContradiction
    intro plain
    exact different (decode_of_plain plain).symm
  · intro extension same
    have own := isExtension_decode_extended extension
    rw [← same, isExtension_decode_standard] at own
    cases own

end Opcode

/-- The table of a mode has the instruction, or none for the opcode it keeps. -/
inductive Instruction.BelongsTo (mode : Mode) : Instruction → Prop where
  | listed {instruction : Instruction} (listed : instruction.Listed mode) :
      BelongsTo mode instruction
  | unknown {opcode : Opcode}
      (unnamed : ∀ named : Instruction, named.Listed mode → named.encode ≠ opcode) :
      BelongsTo mode (.unknown opcode)

theorem Opcode.Reads.belongs {mode : Mode} {opcode : Opcode} {instruction : Instruction}
    (reads : opcode.Reads mode instruction) (decoded : opcode.decode mode = instruction) :
    instruction.BelongsTo mode := by
  cases reads with
  | listed listed same => exact .listed listed
  | unknown => exact .unknown (unnamed_of_decode decoded)

theorem Instruction.BelongsTo.decode_encode {mode : Mode} {instruction : Instruction}
    (belongs : instruction.BelongsTo mode) : instruction.encode.decode mode = instruction := by
  cases belongs with
  | listed listed => exact Opcode.decode_encode listed
  | unknown unnamed => exact Opcode.decode_of_unnamed unnamed

theorem Instruction.belongsTo_of_decode_encode {mode : Mode} {instruction : Instruction}
    (decoded : instruction.encode.decode mode = instruction) : instruction.BelongsTo mode := by
  have reads := Opcode.reads_decode mode instruction.encode
  rw [decoded] at reads
  exact reads.belongs decoded

/-- No opcode loses anything when it is decoded, and what is decoded is the table. -/
structure Mode.DecodesExactly (mode : Mode) : Prop where
  lossless : ∀ opcode : Opcode, (opcode.decode mode).encode = opcode
  distinct : ∀ first last : Opcode, first.decode mode = last.decode mode → first = last
  image : ∀ instruction : Instruction,
    instruction.encode.decode mode = instruction ↔ instruction.BelongsTo mode

/-- Both tables are decoded exactly, and they differ on the opcodes of the extension. -/
theorem Opcode.decodes_exactly :
    (∀ mode : Mode, mode.DecodesExactly) ∧ ∀ opcode : Opcode,
      opcode.decode .standard ≠ opcode.decode .extended ↔ opcode.IsExtension := by
  refine ⟨fun mode => ⟨encode_decode mode, fun _ _ => decode_injective, fun _ => ?_⟩,
    decode_ne_iff⟩
  constructor
  · exact Instruction.belongsTo_of_decode_encode
  · exact Instruction.BelongsTo.decode_encode

end Chip8
