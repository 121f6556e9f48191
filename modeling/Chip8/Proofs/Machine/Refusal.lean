import Chip8.Proofs.Address
import Chip8.Proofs.Machine.Run
import Chip8.Proofs.Memory

/-! Which faults instructions raise. What is wrong with loading a program or
with a key that a host names is no matter of theirs. -/
namespace Chip8

/-- An address is at fault for lying outside of memory or for being odd. -/
def Fault.OfInstruction : Fault → Prop
  | invalidAddress address => memorySize ≤ address ∨ address % 2 = 1
  | unknownOpcode _ => True
  | stackOverflow => True
  | stackUnderflow => True
  | programTooLarge _ => False
  | invalidKeyCode _ => False

theorem Address.aligned_error {address : Address} (refused : address.aligned = .error reason) :
    reason.OfInstruction := by
  unfold aligned at refused
  split at refused
  · cases refused
  · rename_i odd
    cases refused
    exact .inr (Nat.mod_two_ne_zero.mp odd)

theorem Address.advance_error {address : Address} (refused : address.advance distance = .error reason) :
    reason.OfInstruction := by
  rw [address.advance_eq, ofNat] at refused
  split at refused
  · cases refused
  · rename_i outside
    cases refused
    exact .inl (Nat.not_lt.mp outside)

theorem AlignedAddress.advance_error {address : AlignedAddress}
    (refused : address.advance distance = .error reason) : reason.OfInstruction := by
  rw [address.advance_eq, ← address.toAddress.advance_eq] at refused
  rcases Except.bind_error refused with outside | ⟨sum, _, odd⟩
  · exact Address.advance_error outside
  · exact Address.aligned_error odd

theorem Flow.target_error {flow : Flow} (refused : flow.target counter = .error reason) :
    reason.OfInstruction := by
  cases flow with
  | next => exact AlignedAddress.advance_error refused
  | skip => exact AlignedAddress.advance_error refused
  | goTo target => cases refused
  | stay => cases refused

namespace Machine

/-- No stretch that starts at the index is so long that its end is no word. -/
theorem index_fits (machine : Machine) {length : Nat} (short : length ≤ 0x100) :
    machine.index.toUInt64.toNat + length < UInt64.size := by
  have bound := machine.index.toNat_lt
  have size : UInt64.size = 0x10000000000000000 := rfl
  rw [UInt16.toNat_toUInt64]
  omega

/-- A stretch of memory from the index on is touched, after it was checked as a
whole. -/
structure Guarded (machine : Machine) (length : Nat) (stretch : Except Fault α) : Prop where
  inside : machine.index.toNat + length ≤ memorySize → ∃ value, stretch = .ok value
  outside : memorySize < machine.index.toNat + length →
    stretch = .error (.invalidAddress (max machine.index.toNat memorySize))

theorem Guarded.refused {machine : Machine} {stretch : Except Fault α}
    (guarded : machine.Guarded length stretch) (refused : stretch = .error reason) :
    reason.OfInstruction := by
  by_cases inside : machine.index.toNat + length ≤ memorySize
  · obtain ⟨value, accepted⟩ := guarded.inside inside
    rw [accepted] at refused
    cases refused
  · rw [guarded.outside (Nat.not_le.mp inside)] at refused
    cases refused
    exact .inl (Nat.le_max_right _ _)

theorem slice_guarded (machine : Machine) (length : UInt64) (short : length.toNat ≤ 0x100) :
    machine.Guarded length.toNat (machine.memory.slice machine.index.toUInt64 length) where
  inside within := ⟨_, machine.memory.slice_of_le machine.index.toUInt64 length within⟩
  outside beyond := machine.memory.slice_of_lt machine.index.toUInt64 length beyond (machine.index_fits short)

theorem writeSlice_guarded (machine : Machine) (bytes : List UInt8) (short : bytes.length ≤ 0x100) :
    machine.Guarded bytes.length (machine.memory.writeSlice machine.index.toUInt64 bytes) where
  inside within := ⟨_, machine.memory.writeSlice_of_le machine.index.toUInt64 within⟩
  outside beyond := machine.memory.writeSlice_of_lt machine.index.toUInt64 beyond (machine.index_fits short)

theorem sprite_guarded (machine : Machine) (rows : UInt8) :
    machine.Guarded rows.toNat (machine.memory.slice machine.index.toUInt64 rows.toUInt64) :=
  machine.slice_guarded rows.toUInt64 (Nat.le_of_lt rows.toNat_lt)

theorem bigSprite_guarded (machine : Machine) :
    machine.Guarded 32 (machine.memory.slice machine.index.toUInt64 bigSpriteSize) :=
  machine.slice_guarded bigSpriteSize (by decide)

theorem length_registersThrough (machine : Machine) (last : Register) :
    (machine.registersThrough last).length = last.val + 1 := by
  have bound := last.isLt
  simp only [registersThrough, List.length_take, Vector.length_toList]
  omega

theorem digits_guarded (machine : Machine) (x : Register) :
    machine.Guarded 3
      (machine.memory.writeSlice machine.index.toUInt64 (decimalDigits (machine.register x))) :=
  machine.writeSlice_guarded (decimalDigits (machine.register x)) (by simp [decimalDigits])

theorem stored_guarded (machine : Machine) (last : Register) :
    machine.Guarded (last.val + 1)
      (machine.memory.writeSlice machine.index.toUInt64 (machine.registersThrough last)) := by
  have bound := last.isLt
  rw [← length_registersThrough machine last]
  exact machine.writeSlice_guarded _ (by rw [length_registersThrough]; omega)

theorem toNat_transferLength (last : Register) :
    (UInt64.ofNat (last.val + 1)).toNat = last.val + 1 :=
  UInt64.toNat_ofNat_of_lt' (Nat.lt_trans (Nat.succ_lt_succ last.isLt) (by decide))

theorem loaded_guarded (machine : Machine) (last : Register) :
    machine.Guarded (last.val + 1)
      (machine.memory.slice machine.index.toUInt64 (UInt64.ofNat (last.val + 1))) := by
  have bound := last.isLt
  have word := toNat_transferLength last
  have guarded := machine.slice_guarded (.ofNat (last.val + 1)) (by omega)
  rw [word] at guarded
  exact guarded

theorem refused_of_ret {machine : Machine} (refused : machine.effect random .ret = .error reason) :
    reason.OfInstruction := by
  rw [Action.settles_ret.effect] at refused
  split at refused
  · cases refused
    trivial
  · exact AlignedAddress.advance_error (Except.bind_return_error refused)

theorem refused_of_call {machine : Machine}
    (refused : machine.effect random (.call address) = .error reason) : reason.OfInstruction := by
  rw [Action.settles_call.effect] at refused
  rcases Except.bind_error refused with odd | ⟨target, _, checked⟩
  · exact Address.aligned_error odd
  · split at checked
    · cases checked
      trivial
    · cases checked

theorem refused_of_jumpOffset {machine : Machine}
    (refused : machine.effect random (.jumpOffset x address) = .error reason) :
    reason.OfInstruction := by
  rw [Action.settles_jumpOffset.effect] at refused
  rcases Except.bind_error refused with outside | ⟨sum, _, checked⟩
  · exact Address.advance_error outside
  · exact Address.aligned_error (Except.bind_return_error checked)

theorem refused_of_effect {machine : Machine}
    (refused : machine.effect random instruction = .error reason) : reason.OfInstruction := by
  cases instruction with
  | ret => exact refused_of_ret refused
  | jump address =>
    rw [Action.settles_jump.effect] at refused
    exact Address.aligned_error (Except.bind_return_error refused)
  | call address => exact refused_of_call refused
  | jumpOffset x address => exact refused_of_jumpOffset refused
  | draw x y rows =>
    rw [Action.settles_draw.effect] at refused
    exact (machine.sprite_guarded rows).refused (Except.bind_return_error refused)
  | drawBig x y =>
    rw [Action.settles_drawBig.effect] at refused
    exact machine.bigSprite_guarded.refused (Except.bind_return_error refused)
  | storeDigits x =>
    rw [Action.settles_storeDigits.effect] at refused
    exact (machine.digits_guarded x).refused (Except.bind_return_error refused)
  | storeRegisters last =>
    rw [Action.settles_storeRegisters.effect] at refused
    exact (machine.stored_guarded last).refused (Except.bind_return_error refused)
  | loadRegisters last =>
    rw [Action.settles_loadRegisters.effect] at refused
    exact (machine.loaded_guarded last).refused (Except.bind_return_error refused)
  | unknown opcode =>
    cases refused
    trivial
  | _ => cases refused

/-- Whatever makes an execution fail is a fault of instructions. -/
theorem failure_ofInstruction {machine : Machine}
    (failed : (machine.execute random instruction).failure = some reason) : reason.OfInstruction := by
  rcases execute_failure failed with ⟨refused, _⟩ | ⟨made, _, blocked, _⟩
  · exact refused_of_effect refused
  · exact Flow.target_error blocked

end Machine

end Chip8
