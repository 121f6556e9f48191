import Chip8.Proofs.Machine.Refusal
import Chip8.Proofs.Machine.Run
import Chip8.Proofs.Screen.Toggling

/-! What each instruction may touch. Everything else is as it was before, whether
the execution succeeds or fails. -/
namespace Chip8

/-- The operation stores something in the flag register. -/
def Arithmetic.reports (dialect : Dialect) : Arithmetic → Bool
  | copy => false
  | or => dialect.logicClearsFlag
  | and => dialect.logicClearsFlag
  | xor => dialect.logicClearsFlag
  | _ => true

theorem Arithmetic.isSome_compute (operation : Arithmetic) (dialect : Dialect) (a b : UInt8) :
    (operation.compute dialect a b).2.isSome = operation.reports dialect := by
  cases operation with
  | or => cases clears : dialect.logicClearsFlag <;> simp [compute, reports, clears]
  | and => cases clears : dialect.logicClearsFlag <;> simp [compute, reports, clears]
  | xor => cases clears : dialect.logicClearsFlag <;> simp [compute, reports, clears]
  | _ => rfl

namespace Instruction

/-- How many bytes of memory are stored from the index on. -/
def stored : Instruction → Nat
  | storeDigits _ => 3
  | storeRegisters last => last.val + 1
  | _ => 0

/-- The instruction works on the screen. -/
def draws : Instruction → Bool
  | clear => true
  | scrollDown _ => true
  | scrollRight => true
  | scrollLeft => true
  | setResolution _ => true
  | draw .. => true
  | drawBig .. => true
  | _ => false

/-- The instruction moves the index. -/
def movesIndex (dialect : Dialect) : Instruction → Bool
  | setIndex _ => true
  | addIndex _ => true
  | pointDigit _ => true
  | pointBigDigit _ => true
  | storeRegisters _ => dialect.transferAdvancesIndex
  | loadRegisters _ => dialect.transferAdvancesIndex
  | _ => false

/-- The instruction stores something in a register. -/
def assigns (dialect : Dialect) : Instruction → Register → Bool
  | loadByte x _, y => y = x
  | addByte x _, y => y = x
  | arithmetic operation x _, y => y = x || operation.reports dialect && y = Register.flag
  | random x _, y => y = x
  | draw .., y => y = Register.flag
  | drawBig .., y => y = Register.flag
  | readDelay x, y => y = x
  | loadRegisters last, y => y ≤ last
  | restoreFlags last, y => y.val ≤ min last.val 7
  | _, _ => false

end Instruction

theorem Cells.covered_of_changed {size position : Nat} {cells : Vector UInt8 size} {start : Nat}
    {bytes : List UInt8} {inside : position < size}
    (changed : (overlay cells start bytes)[position] ≠ cells[position]) :
    start ≤ position ∧ position < start + bytes.length := by
  apply Decidable.byContradiction
  intro uncovered
  apply changed
  rw [getElem_overlay, dif_neg uncovered]

theorem Memory.covered_of_changed {memory after : Memory}
    (written : memory.writeSlice start bytes = .ok after) {inside : position < memorySize}
    (changed : after.cells[position] ≠ memory.cells[position]) :
    start.toNat ≤ position ∧ position < start.toNat + bytes.length := by
  rw [memory.writeSlice_of_le start (le_of_writeSlice written)] at written
  cases written
  exact Cells.covered_of_changed changed

namespace Machine

theorem eq_of_changed {machine : Machine}
    (changed : (machine.setRegister x value).register y ≠ machine.register y) : y = x := by
  apply Decidable.byContradiction
  intro other
  apply changed
  rw [register_setRegister, if_neg other]

theorem eq_of_changed_result {machine : Machine} {result : UInt8 × Option UInt8}
    (changed : (machine.setResult x result).register y ≠ machine.register y) :
    y = x ∨ result.2.isSome = true ∧ y = Register.flag := by
  obtain ⟨value, flag⟩ := result
  cases flag with
  | none => exact .inl (eq_of_changed changed)
  | some flag =>
    by_cases reported : y = Register.flag
    · exact .inr ⟨rfl, reported⟩
    · simp only [setResult, register_setRegister, if_neg reported] at changed
      exact .inl (eq_of_changed (by rwa [register_setRegister]))

/-- Whatever changed, the instruction is one of those that may change it. -/
structure Footprint (before : Machine) (instruction : Instruction) (after : Machine) : Prop where
  memory : ∀ position (_ : position < memorySize),
    after.memory.cells[position] ≠ before.memory.cells[position] →
      before.index.toNat ≤ position ∧ position < before.index.toNat + instruction.stored := by
    exact fun _ _ => absurd rfl
  screen : after.screen ≠ before.screen → instruction.draws = true := by exact absurd rfl
  resolution : after.screen.resolution ≠ before.screen.resolution →
    ∃ resolution, instruction = .setResolution resolution := by exact absurd rfl
  registers : ∀ x, after.register x ≠ before.register x →
    instruction.assigns before.dialect x = true := by
    exact fun _ => absurd rfl
  index : after.index ≠ before.index → instruction.movesIndex before.dialect = true := by
    exact absurd rfl
  delay : after.timers.delay ≠ before.timers.delay → ∃ x, instruction = .setDelay x := by
    exact absurd rfl
  sound : after.timers.sound ≠ before.timers.sound → ∃ x, instruction = .setSound x := by
    exact absurd rfl
  flags : after.flags ≠ before.flags → ∃ last, instruction = .saveFlags last := by exact absurd rfl
  stack : after.stack ≠ before.stack →
    instruction = .ret ∨ ∃ target, instruction = .call target := by exact absurd rfl
  runState : after.runState ≠ before.runState → ∃ x, instruction = .awaitKey x := by
    exact absurd rfl
  pending : after.keypad.pending ≠ before.keypad.pending → ∃ x, instruction = .awaitKey x := by
    exact absurd rfl
  halted : after.halted ≠ before.halted → instruction = .exit := by exact absurd rfl
  held : after.keypad.held = before.keypad.held := by rfl
  mode : after.mode = before.mode := by rfl
  dialect : after.dialect = before.dialect := by rfl
  program : after.program = before.program := by rfl
  paused : after.paused = before.paused := by rfl
  fault : after.fault = before.fault := by rfl

namespace Footprint

variable {machine before after made : Machine}

theorem refl (machine : Machine) (instruction : Instruction) :
    machine.Footprint instruction machine where

theorem setRegister {instruction : Instruction} (machine : Machine) {x : Register} (value : UInt8)
    (assigned : instruction.assigns machine.dialect x = true) :
    machine.Footprint instruction (machine.setRegister x value) where
  registers y changed := by
    rw [eq_of_changed changed]
    exact assigned

theorem arithmetic (machine : Machine) (operation : Arithmetic) (x y : Register) (a b : UInt8) :
    machine.Footprint (.arithmetic operation x y)
      (machine.setResult x (operation.compute machine.dialect a b)) := by
  have registers : ∀ z, (machine.setResult x (operation.compute machine.dialect a b)).register z ≠
      machine.register z →
        (Instruction.arithmetic operation x y).assigns machine.dialect z = true := by
    intro z changed
    rcases eq_of_changed_result changed with first | ⟨reported, flag⟩
    · simp [Instruction.assigns, first]
    · rw [operation.isSome_compute] at reported
      simp [Instruction.assigns, reported, flag]
  generalize operation.compute machine.dialect a b = result at registers
  obtain ⟨value, flag⟩ := result
  cases flag with
  | none => exact { registers }
  | some flag => exact { registers }

/-- To move the index past a transfer is part of the transfer. -/
theorem advanceIndex {instruction : Instruction} (print : before.Footprint instruction after)
    (moves : instruction.movesIndex before.dialect = before.dialect.transferAdvancesIndex)
    (length : Nat) : before.Footprint instruction (after.advanceIndex length) := by
  unfold Machine.advanceIndex
  split
  · rename_i advances
    rw [print.dialect] at advances
    exact { print with index := fun _ => moves.trans advances }
  · exact print

theorem drawSprite {instruction : Instruction} (machine : Machine) (sprite : Sprite)
    (placement : Placement) (draws : instruction.draws = true)
    (assigned : instruction.assigns machine.dialect Register.flag = true) :
    machine.Footprint instruction (machine.drawSprite sprite placement) where
  screen _ := draws
  resolution changed := by
    refine absurd ?_ changed
    exact (congrArg Screen.resolution (machine.screen.screen_draw sprite placement)).trans
      (machine.screen.resolution_toggleAll _)
  registers y changed := by
    rw [show y = Register.flag from eq_of_changed changed]
    exact assigned

theorem overlay {instruction : Instruction} (machine : Machine) {bytes : List UInt8}
    (assigned : ∀ x : Register, x.val < bytes.length →
      instruction.assigns machine.dialect x = true) :
    machine.Footprint instruction
      { machine with registers := Cells.overlay machine.registers 0 bytes } where
  registers x changed := by
    obtain ⟨_, covered⟩ := Cells.covered_of_changed changed
    exact assigned x (by omega)

theorem writeSlice {instruction : Instruction} (machine : Machine) {memory : Memory}
    (written : machine.memory.writeSlice machine.index.toUInt64 bytes = .ok memory)
    (stored : bytes.length = instruction.stored) :
    machine.Footprint instruction { machine with memory } where
  memory position inside changed := by
    have covered := Memory.covered_of_changed written changed
    rw [UInt16.toNat_toUInt64, stored] at covered
    exact covered

end Footprint

/-- An instruction that is not refused stays within its footprint. -/
theorem footprint_of_effect {machine : Machine}
    (done : machine.effect random instruction = .ok made) :
    machine.Footprint instruction made.machine := by
  cases instruction with
  | scrollDown rows => cases done; exact { screen := fun _ => rfl }
  | scrollRight => cases done; exact { screen := fun _ => rfl }
  | scrollLeft => cases done; exact { screen := fun _ => rfl }
  | clear => cases done; exact { screen := fun _ => rfl }
  | setResolution resolution =>
    cases done
    exact { screen := fun _ => rfl, resolution := fun _ => ⟨resolution, rfl⟩ }
  | ret =>
    obtain ⟨caller, outer, target, _, _, rfl⟩ := made_of_ret done
    exact { stack := fun _ => .inl rfl }
  | exit => cases done; exact { halted := fun _ => rfl }
  | jump address =>
    obtain ⟨target, _, rfl⟩ := made_of_jump done
    exact .refl machine _
  | call address =>
    obtain ⟨target, _, _, rfl⟩ := made_of_call done
    exact { stack := fun _ => .inr ⟨address, rfl⟩ }
  | jumpOffset x address =>
    obtain ⟨target, rfl⟩ := made_of_jumpOffset done
    exact .refl machine _
  | loadByte x byte => cases done; exact .setRegister machine byte (decide_eq_true rfl)
  | addByte x byte => cases done; exact .setRegister machine _ (decide_eq_true rfl)
  | arithmetic operation x y => cases done; exact .arithmetic machine operation x y _ _
  | setIndex address => cases done; exact { index := fun _ => rfl }
  | addIndex x => cases done; exact { index := fun _ => rfl }
  | random x mask => cases done; exact .setRegister machine _ (decide_eq_true rfl)
  | draw x y rows =>
    obtain ⟨bytes, _, rfl⟩ := made_of_draw done
    exact .drawSprite machine _ _ rfl rfl
  | drawBig x y =>
    obtain ⟨bytes, _, rfl⟩ := made_of_drawBig done
    exact .drawSprite machine _ _ rfl rfl
  | readDelay x => cases done; exact .setRegister machine _ (decide_eq_true rfl)
  | awaitKey x =>
    cases done
    exact { runState := fun _ => ⟨x, rfl⟩, pending := fun _ => ⟨x, rfl⟩ }
  | setDelay x => cases done; exact { delay := fun _ => ⟨x, rfl⟩ }
  | setSound x => cases done; exact { sound := fun _ => ⟨x, rfl⟩ }
  | pointDigit x => cases done; exact { index := fun _ => rfl }
  | pointBigDigit x => cases done; exact { index := fun _ => rfl }
  | storeDigits x =>
    obtain ⟨memory, written, rfl⟩ := made_of_storeDigits done
    exact .writeSlice machine written rfl
  | storeRegisters last =>
    obtain ⟨memory, written, rfl⟩ := made_of_storeRegisters done
    have print : machine.Footprint (.storeRegisters last) { machine with memory } :=
      .writeSlice machine written (machine.length_registersThrough last)
    exact print.advanceIndex rfl _
  | loadRegisters last =>
    obtain ⟨bytes, read, rfl⟩ := made_of_loadRegisters done
    have length : bytes.length = last.val + 1 :=
      (Memory.length_of_slice read).trans (toNat_transferLength last)
    refine Footprint.advanceIndex (.overlay machine ?_) rfl _
    intro y short
    rw [length] at short
    exact decide_eq_true (Nat.le_of_lt_succ short)
  | saveFlags last => cases done; exact { flags := fun _ => ⟨last, rfl⟩ }
  | restoreFlags last =>
    cases done
    refine .overlay machine ?_
    intro y short
    rw [List.length_take, Vector.length_toList] at short
    have low : y.val < min (last.val + 1) 8 := short
    exact decide_eq_true (by omega)
  | unknown opcode => cases done
  | _ => cases done; exact .refl machine _

/-- No execution changes anything outside of the footprint of its instruction. -/
theorem execute_footprint (machine : Machine) (random : UInt8) (instruction : Instruction) :
    machine.Footprint instruction (machine.execute random instruction).machine := by
  apply execute_holds (machine.Footprint instruction)
  · exact .refl machine instruction
  · exact footprint_of_effect
  · intro reached print counter
    exact { print with }

end Machine

end Chip8
