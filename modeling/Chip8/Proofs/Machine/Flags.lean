import Chip8.Proofs.Machine.Footprint
import Chip8.Proofs.Machine.Loading
import Chip8.Proofs.Machine.Reporting

/-! The flags outlive the program that saved them. Nothing but another save or another
program changes them, so what was saved can be restored whatever ran in between. -/
namespace Chip8

/-- The register that a flag is saved from and restored to. -/
def Register.ofFlag (place : Fin flagCount) : Register := place.castLE (by decide)

namespace Machine

variable {part : Machine → α} {machine : Machine}

theorem OfEffect.perform (ofEffect : OfEffect part)
    (executed : machine.executed? call = some instruction) :
    ∃ random, part (machine.perform call).machine = part (machine.execute random instruction).machine := by
  obtain ⟨random, fault, _, same, _⟩ := perform_of_executed executed
  refine ⟨random, ?_⟩
  rw [same, ofEffect.recorded]

theorem OfEffect.changed_by_execute (ofEffect : OfEffect part)
    (changed : part (machine.execute random instruction).machine ≠ part machine) :
    ∃ made, machine.effect random instruction = .ok made ∧ part made.machine ≠ part machine := by
  rcases ofEffect.execute_cases machine random instruction with kept | ⟨made, done, same⟩
  · exact absurd kept changed
  · exact ⟨made, done, same ▸ changed⟩

/-- What no key that is delivered changes is changed by a cycle only where it executes. -/
theorem OfEffect.changed_by_cycle (ofEffect : OfEffect part)
    (delivered : ∀ machine keypad registers runState,
      part { machine with keypad, registers, runState } = part machine)
    (changed : part (machine.cycle random).machine ≠ part machine) :
    ∃ instruction made, machine.executed? (.cycle random) = some instruction ∧
      machine.effect random instruction = .ok made ∧ part made.machine ≠ part machine := by
  refine cycle_keeps (fun after => part after ≠ part machine → ∃ instruction made,
    machine.executed? (.cycle random) = some instruction ∧
      machine.effect random instruction = .ok made ∧ part made.machine ≠ part machine) ?_ ?_ changed
  · intro keypad registers runState other
    exact absurd (delivered machine keypad registers runState) other
  · intro executed fault other
    rw [ofEffect.recorded] at other
    obtain ⟨made, done, different⟩ := ofEffect.changed_by_execute other
    exact ⟨_, made, executed, done, different⟩

theorem flags_ofEffect : OfEffect flags where

/-- Flags change where an instruction saves into them and where a program is taken up. -/
theorem flags_changed (changed : (machine.perform call).machine.flags ≠ machine.flags) :
    (∃ last, machine.executed? call = some (.saveFlags last)) ∨
      ∃ program, call.accepted? = some program := by
  by_cases resets : call.resets = true
  · rcases Call.accepted_of_resets resets with reload | accepted
    · subst reload
      exact absurd rfl changed
    · exact .inr accepted
  · have kept : call.resets = false := eq_false_of_ne_true resets
    cases call with
    | cycle random =>
      obtain ⟨instruction, made, executed, done, other⟩ :=
        flags_ofEffect.changed_by_cycle (fun _ _ _ _ => rfl) changed
      obtain ⟨last, same⟩ := (footprint_of_effect done).flags other
      exact .inl ⟨last, same ▸ executed⟩
    | execute random instruction =>
      obtain ⟨made, done, other⟩ := flags_ofEffect.changed_by_execute changed
      obtain ⟨last, same⟩ := (footprint_of_effect done).flags other
      exact .inl ⟨last, congrArg some same⟩
    | _ => exact absurd (machine.perform_sameCourse kept rfl).flags changed

theorem effect_saveFlags (machine : Machine) (random : UInt8) (last : Register) :
    machine.effect random (.saveFlags last) = .ok (.next { machine with
      flags := Cells.overlay machine.flags 0 (machine.registersThrough last) }) := rfl

theorem effect_restoreFlags (machine : Machine) (random : UInt8) (last : Register) :
    machine.effect random (.restoreFlags last) = .ok (.next { machine with
      registers := Cells.overlay machine.registers 0 (machine.flags.toList.take (last.val + 1)) }) := rfl

theorem flags_of_saved (executed : machine.executed? call = some (.saveFlags last)) :
    (machine.perform call).machine.flags =
      Cells.overlay machine.flags 0 (machine.registersThrough last) := by
  obtain ⟨random, same⟩ := flags_ofEffect.perform executed
  rw [same]
  exact flags_ofEffect.execute (machine.effect_saveFlags random last)

theorem registers_of_restored (executed : machine.executed? call = some (.restoreFlags last)) :
    (machine.perform call).machine.registers =
      Cells.overlay machine.registers 0 (machine.flags.toList.take (last.val + 1)) := by
  have ofEffect : OfEffect registers := {}
  obtain ⟨random, same⟩ := ofEffect.perform executed
  rw [same]
  exact ofEffect.execute (machine.effect_restoreFlags random last)

/-- No call of a run saves flags or takes up a program. -/
def Unsaved (machine : Machine) (calls : List Call) : Prop :=
  ∀ first call, first ++ [call] <+: calls →
    call.accepted? = none ∧ ∀ last, (machine.run first).executed? call ≠ some (.saveFlags last)

theorem flags_run (unsaved : machine.Unsaved calls) : (machine.run calls).flags = machine.flags := by
  apply run_along fun _ reached => reached.flags = machine.flags
  · rfl
  · intro first call part kept
    obtain ⟨refused, other⟩ := unsaved first call part
    refine Eq.trans ?_ kept
    apply Decidable.byContradiction
    intro changed
    rcases flags_changed changed with ⟨last, saved⟩ | ⟨program, accepted⟩
    · exact other last saved
    · rw [refused] at accepted
      cases accepted

/-- A save stores the registers through `last`, as far as there are flags for them. -/
structure SavedThrough (last : Register) (before after : Machine) : Prop where
  saved : ∀ place : Fin flagCount, place.val ≤ min last.val 7 →
    after.flags[place] = before.register (.ofFlag place)
  others : ∀ place : Fin flagCount, min last.val 7 < place.val →
    after.flags[place] = before.flags[place]

structure RestoredThrough (last : Register) (before after : Machine) : Prop where
  restored : ∀ place : Fin flagCount, place.val ≤ min last.val 7 →
    after.register (.ofFlag place) = before.flags[place]
  others : ∀ x : Register, min last.val 7 < x.val → after.register x = before.register x

theorem savedThrough (executed : machine.executed? call = some (.saveFlags last)) :
    SavedThrough last machine (machine.perform call).machine := by
  have length := machine.length_registersThrough last
  constructor
  · intro place reached
    have covered : 0 ≤ place.val ∧ place.val < 0 + (machine.registersThrough last).length := by omega
    rw [flags_of_saved executed, Fin.getElem_fin, Cells.getElem_overlay, dif_pos covered]
    simp [registersThrough, register, Register.ofFlag]
  · intro place beyond
    have bound : place.val < 8 := place.isLt
    have uncovered : ¬ (0 ≤ place.val ∧ place.val < 0 + (machine.registersThrough last).length) := by
      omega
    rw [flags_of_saved executed, Fin.getElem_fin, Cells.getElem_overlay, dif_neg uncovered]
    rfl

theorem restoredThrough (executed : machine.executed? call = some (.restoreFlags last)) :
    RestoredThrough last machine (machine.perform call).machine := by
  have length : (machine.flags.toList.take (last.val + 1)).length = min (last.val + 1) 8 := by
    rw [List.length_take, Vector.length_toList]
  constructor
  · intro place reached
    have covered : 0 ≤ place.val ∧ place.val < 0 + (machine.flags.toList.take (last.val + 1)).length := by
      omega
    have inside : place.val < 16 := (Register.ofFlag place).isLt
    change (machine.perform call).machine.registers[place.val] = _
    rw [registers_of_restored executed, Cells.getElem_overlay, dif_pos covered]
    simp
  · intro x beyond
    have uncovered : ¬ (0 ≤ x.val ∧ x.val < 0 + (machine.flags.toList.take (last.val + 1)).length) := by
      omega
    rw [register, registers_of_restored executed, Fin.getElem_fin, Cells.getElem_overlay,
      dif_neg uncovered]
    rfl

/-- There are flags for eight registers only, so all further ones stand for the eighth. -/
theorem registersThrough_eighth (machine : Machine) {last : Register} (beyond : 7 ≤ last.val) :
    Cells.overlay machine.flags 0 (machine.registersThrough last) =
      Cells.overlay machine.flags 0 (machine.registersThrough (.ofNat 7)) := by
  have eighth : (Register.ofNat 7).val = 7 := rfl
  apply Vector.ext
  intro place inside
  have bound : place < 8 := inside
  have covered : ∀ x : Register, 7 ≤ x.val →
      0 ≤ place ∧ place < 0 + (machine.registersThrough x).length := by
    intro x high
    rw [length_registersThrough]
    omega
  rw [Cells.getElem_overlay, Cells.getElem_overlay, dif_pos (covered last beyond),
    dif_pos (covered _ (Nat.le_of_eq eighth.symm))]
  simp [registersThrough]

theorem flagsThrough_eighth (machine : Machine) {last : Register} (beyond : 7 ≤ last.val) :
    machine.flags.toList.take (last.val + 1) =
      machine.flags.toList.take ((Register.ofNat 7).val + 1) := by
  have length : machine.flags.toList.length = 8 := Vector.length_toList
  have eighth : (Register.ofNat 7).val = 7 := rfl
  rw [List.take_of_length_le (by omega), List.take_of_length_le (by omega)]

theorem execute_congr {other : Instruction}
    (same : machine.effect random instruction = machine.effect random other) :
    machine.execute random instruction = machine.execute random other := by
  rw [execute_eq, execute_eq, same]

/-- What the flags are for, on one machine. -/
structure KeepsFlags (start : Machine) : Prop where
  saves : ∀ call last, start.executed? call = some (.saveFlags last) →
    SavedThrough last start (start.perform call).machine
  restores : ∀ call last, start.executed? call = some (.restoreFlags last) →
    RestoredThrough last start (start.perform call).machine
  eighth : ∀ last : Register, 7 ≤ last.val → ∀ random,
    start.execute random (.saveFlags last) = start.execute random (.saveFlags (.ofNat 7)) ∧
    start.execute random (.restoreFlags last) = start.execute random (.restoreFlags (.ofNat 7))
  /-- What is saved is there after any run that does not save again. -/
  persists : ∀ save last, start.executed? save = some (.saveFlags last) →
    ∀ calls, (start.perform save).machine.Unsaved calls →
      ((start.perform save).machine.run calls).flags = (start.perform save).machine.flags ∧
      ∀ restore through, through ≤ last →
        ((start.perform save).machine.run calls).executed? restore = some (.restoreFlags through) →
        ∀ place : Fin flagCount, place.val ≤ min through.val 7 →
          (((start.perform save).machine.run calls).perform restore).machine.register (.ofFlag place) =
            start.register (.ofFlag place)

/-- Registers that were saved can be restored whatever ran in between. -/
theorem flags_persist (start : Machine) : start.KeepsFlags where
  saves _ _ executed := savedThrough executed
  restores _ _ executed := restoredThrough executed
  eighth last beyond random := by
    constructor
    · apply execute_congr
      rw [effect_saveFlags, effect_saveFlags, start.registersThrough_eighth beyond]
    · apply execute_congr
      rw [effect_restoreFlags, effect_restoreFlags, start.flagsThrough_eighth beyond]
  persists save last executed calls unsaved := by
    have kept := flags_run unsaved
    refine ⟨kept, ?_⟩
    intro restore through within restoring place reached
    have low : through.val ≤ last.val := within
    rw [(restoredThrough restoring).restored place reached, kept]
    exact (savedThrough executed).saved place (by omega)

theorem Unsaved.cons (refused : call.accepted? = none)
    (other : ∀ last, machine.executed? call ≠ some (.saveFlags last))
    (rest : (machine.perform call).machine.Unsaved calls) : machine.Unsaved (call :: calls) := by
  intro first last part
  rcases List.concat_prefix_cons.mp part with ⟨rfl, rfl⟩ | ⟨others, rfl, further⟩
  · exact ⟨refused, other⟩
  · exact rest others last further

theorem Unsaved.nil : machine.Unsaved [] := by
  intro first last part
  simp at part

/-- A saved register comes back after a fault, a restart, a program that could not be
read, a switch of the mode and a pause. -/
theorem saved_register_restored :
    let start := (initial .extended false).run [.setRegister 1 9]
    let calls := [.execute 0 (.loadByte 1 0), .execute 0 (.unknown ⟨0xFFFF⟩), .reload,
      .loadFrom ⟨[0x60, 0x05], some "unplugged"⟩, .setMode .standard, .togglePause]
    (start.perform (.execute 0 (.saveFlags 9))).machine.Unsaved calls ∧
      (((start.perform (.execute 0 (.saveFlags 9))).machine.run calls).perform
        (.execute 0 (.restoreFlags 1))).machine.register 1 = 9 := by
  intro start calls
  have unsaved : (start.perform (.execute 0 (.saveFlags 9))).machine.Unsaved calls :=
    .cons rfl nofun <| .cons rfl nofun <| .cons rfl nofun <| .cons rfl nofun <|
      .cons rfl nofun <| .cons rfl nofun .nil
  have kept := (flags_persist start).persists (.execute 0 (.saveFlags 9)) 9 rfl calls unsaved
  exact ⟨unsaved, kept.2 (.execute 0 (.restoreFlags 1)) 1 (by decide) rfl 1 (by decide)⟩

end Machine

end Chip8
