import Chip8.Instruction.Encode

/-! The fields of opcodes as numbers. An opcode is put together again from the fields
of each of the three formats, and opcodes put together in a format have its fields. -/
namespace Chip8.Opcode

theorem toNat_nibble (opcode : Opcode) : opcode.nibble.toNat = opcode.word.toNat % 0x10 := by
  have short : opcode.word.toNat % 0x10 < 0x100 := by omega
  exact UInt8.toNat_ofNat_of_lt' short

theorem toNat_byte (opcode : Opcode) : opcode.byte.toNat = opcode.word.toNat % 0x100 := by
  have short : opcode.word.toNat % 0x100 < 0x100 := by omega
  exact UInt8.toNat_ofNat_of_lt' short

theorem val_x (opcode : Opcode) : opcode.x.val = opcode.word.toNat / 0x100 % 0x10 := rfl

theorem val_y (opcode : Opcode) : opcode.y.val = opcode.word.toNat / 0x10 % 0x10 := rfl

theorem toNat_address (opcode : Opcode) : opcode.address.toNat = opcode.word.toNat % 0x1000 := rfl

theorem family_lt (opcode : Opcode) : opcode.family < 0x10 := by
  have bound := opcode.word.toNat_lt
  unfold family
  omega

theorem eq_of_toNat {first last : Opcode} (same : first.word.toNat = last.word.toNat) :
    first = last := by
  cases first
  cases last
  exact congrArg mk (UInt16.toNat_inj.mp same)

section

variable {family : Nat} (short : family < 0x10) (target : Address) (x y : Register) (low : UInt8)
include short

theorem toNat_ofAddress :
    (ofAddress family target).word.toNat = family * 0x1000 + target.toNat := by
  have bound : target.toNat < 0x1000 := target.inMemory
  exact UInt16.toNat_ofNat_of_lt' (show _ < 0x10000 by omega)

theorem toNat_ofByte :
    (ofByte family x low).word.toNat = family * 0x1000 + x.val * 0x100 + low.toNat := by
  have bound := low.toNat_lt
  exact UInt16.toNat_ofNat_of_lt' (show _ < 0x10000 by omega)

theorem toNat_ofPair : (ofPair family x y low).word.toNat =
    family * 0x1000 + x.val * 0x100 + y.val * 0x10 + low.toNat % 0x10 :=
  UInt16.toNat_ofNat_of_lt' (show _ < 0x10000 by omega)

@[simp]
theorem family_ofAddress : (ofAddress family target).family = family := by
  have bound : target.toNat < 0x1000 := target.inMemory
  rw [Opcode.family, toNat_ofAddress short]
  omega

@[simp]
theorem address_ofAddress : (ofAddress family target).address = target := by
  have bound : target.toNat < 0x1000 := target.inMemory
  have same : (ofAddress family target).address.toNat = target.toNat := by
    rw [toNat_address, toNat_ofAddress short]
    omega
  generalize (ofAddress family target).address = read at same
  cases read
  cases target
  cases same
  rfl

theorem val_x_ofAddress : (ofAddress family target).x.val = target.toNat / 0x100 := by
  have bound : target.toNat < 0x1000 := target.inMemory
  rw [val_x, toNat_ofAddress short]
  omega

@[simp]
theorem family_ofByte : (ofByte family x low).family = family := by
  have bound := low.toNat_lt
  rw [Opcode.family, toNat_ofByte short]
  omega

@[simp]
theorem x_ofByte : (ofByte family x low).x = x := by
  have bound := low.toNat_lt
  apply Fin.ext
  rw [val_x, toNat_ofByte short]
  omega

@[simp]
theorem byte_ofByte : (ofByte family x low).byte = low := by
  have bound := low.toNat_lt
  apply UInt8.toNat_inj.mp
  rw [toNat_byte, toNat_ofByte short]
  omega

@[simp]
theorem family_ofPair : (ofPair family x y low).family = family := by
  rw [Opcode.family, toNat_ofPair short]
  omega

@[simp]
theorem x_ofPair : (ofPair family x y low).x = x := by
  apply Fin.ext
  rw [val_x, toNat_ofPair short]
  omega

@[simp]
theorem y_ofPair : (ofPair family x y low).y = y := by
  apply Fin.ext
  rw [val_y, toNat_ofPair short]
  omega

@[simp]
theorem nibble_ofPair : (ofPair family x y low).nibble = low % 0x10 := by
  apply UInt8.toNat_inj.mp
  rw [toNat_nibble, toNat_ofPair short]
  change _ = low.toNat % 0x10
  omega

end

section

variable {family : Nat} {opcode : Opcode} (start : opcode.family = family)
include start

theorem ofAddress_address : ofAddress family opcode.address = opcode := by
  have short := opcode.family_lt
  rw [start] at short
  apply eq_of_toNat
  rw [toNat_ofAddress short, toNat_address, ← start, Opcode.family]
  omega

theorem ofByte_byte : ofByte family opcode.x opcode.byte = opcode := by
  have short := opcode.family_lt
  have bound := opcode.word.toNat_lt
  rw [start] at short
  apply eq_of_toNat
  rw [toNat_ofByte short, toNat_byte, val_x, ← start, Opcode.family]
  omega

theorem ofPair_nibble : ofPair family opcode.x opcode.y opcode.nibble = opcode := by
  have short := opcode.family_lt
  have bound := opcode.word.toNat_lt
  rw [start] at short
  apply eq_of_toNat
  rw [toNat_ofPair short, toNat_nibble, val_x, val_y, ← start, Opcode.family]
  omega

theorem ofByte_of_toNat {low : UInt8} (same : opcode.byte.toNat = low.toNat) :
    ofByte family opcode.x low = opcode := by
  rw [← UInt8.toNat_inj.mp same]
  exact ofByte_byte start

theorem ofPair_of_nibble {low : UInt8} (same : opcode.nibble = low) :
    ofPair family opcode.x opcode.y low = opcode := by
  rw [← same]
  exact ofPair_nibble start

end

end Chip8.Opcode
