import Chip8.Proofs.Machine.Reset
import Chip8.Proofs.Machine.Run
import Chip8.Proofs.Memory.Image

/-! Loading forgets what was before, but for a few choices of the host; starting
over is loading the last program again. -/
namespace Chip8

/-- The program that a call takes up, if it brings one that is not refused. -/
def Call.accepted? : Call → Option Program
  | load bytes => if fits : bytes.length ≤ programCapacity then some ⟨bytes, fits⟩ else none
  | loadFrom source =>
    if fits : source.bytes.length ≤ programCapacity then
      if source.failure.isNone then some ⟨source.bytes, fits⟩ else none
    else none
  | _ => none

/-- The program that was taken up last, or the empty one. -/
def Call.lastAccepted (calls : List Call) : Program :=
  (calls.filterMap Call.accepted?).getLast?.getD .empty

/-- A call that resets starts the last program over or takes up another one. -/
theorem Call.accepted_of_resets (resets : Call.resets call = true) :
    call = .reload ∨ ∃ program, call.accepted? = some program := by
  cases call with
  | load bytes =>
    have fits : bytes.length ≤ programCapacity := of_decide_eq_true resets
    exact .inr ⟨_, dif_pos fits⟩
  | loadFrom source =>
    obtain ⟨short, ended⟩ := (Bool.and_eq_true _ _).mp resets
    have fits : source.bytes.length ≤ programCapacity := of_decide_eq_true short
    exact .inr ⟨_, (dif_pos fits).trans (if_pos ended)⟩
  | reload => exact .inl rfl
  | _ => cases resets

namespace Machine

/-- What loading does not forget. -/
structure SameHost (first second : Machine) : Prop where
  mode : second.mode = first.mode
  dialect : second.dialect = first.dialect
  paused : second.paused = first.paused
  held : second.keypad.held = first.keypad.held

theorem install_congr {first second : Machine} (same : first.SameHost second) (program : Program) :
    second.install program = first.install program := by
  simp only [install, restart, Screen.setResolution, Keypad.clearPending, same.mode, same.dialect,
    same.paused, same.held]

theorem perform_load_of_le (machine : Machine) (fits : bytes.length ≤ programCapacity) :
    machine.perform (.load bytes) = ⟨machine.install ⟨bytes, fits⟩, .done, [.loaded bytes.length]⟩ := by
  simp only [perform, machine.load_of_le fits]
  rfl

theorem perform_load_of_lt (machine : Machine) (large : programCapacity < bytes.length) :
    machine.perform (.load bytes) = ⟨machine, .failed (.programTooLarge bytes.length), []⟩ := by
  simp only [perform, machine.load_of_lt large]
  rfl

theorem cycle_program (machine : Machine) (random : UInt8) :
    (machine.cycle random).machine.program = machine.program := by
  cases failed : (machine.cycle random).failure with
  | none => exact (cycle_success failed).program
  | some reason =>
    rw [(cycle_failure failed).2.2]
    exact (machine.execute_sameSetup random machine.currentInstruction).program

theorem perform_of_accepted (machine : Machine) {program : Program}
    (accepted : Call.accepted? call = some program) :
    (machine.perform call).machine = machine.install program := by
  cases call with
  | load bytes =>
    simp only [Call.accepted?] at accepted
    split at accepted
    · rename_i fits
      cases accepted
      rw [machine.perform_load_of_le fits]
    · cases accepted
  | loadFrom source =>
    simp only [Call.accepted?] at accepted
    split at accepted
    · rename_i fits
      split at accepted
      · rename_i ended
        cases accepted
        simp only [perform, machine.loadFrom_of_le fits (Option.isNone_iff_eq_none.mp ended)]
      · cases accepted
    · cases accepted
  | _ => cases accepted

/-- A machine keeps its program until another one is accepted. -/
theorem program_perform (machine : Machine) (call : Call) :
    (machine.perform call).machine.program = call.accepted?.getD machine.program := by
  cases taken : call.accepted? with
  | some program =>
    rw [machine.perform_of_accepted taken]
    rfl
  | none =>
    by_cases resets : call.resets = true
    · rcases Call.accepted_of_resets resets with reload | ⟨program, accepted⟩
      · rw [reload]
        rfl
      · rw [taken] at accepted
        cases accepted
    · have kept : call.resets = false := eq_false_of_ne_true resets
      cases call with
      | cycle random => exact machine.cycle_program random
      | execute random instruction => exact (machine.execute_sameSetup random instruction).program
      | _ => exact (machine.perform_sameCourse kept rfl).program

theorem program_run (machine : Machine) (calls : List Call) :
    (machine.run calls).program = (calls.filterMap Call.accepted?).getLast?.getD machine.program :=
  run_last program program_perform machine calls

/-- How a machine takes up programs, whatever it did before. -/
structure LoadsAfresh (machine : Machine) (last : Program) : Prop where
  accepts : ∀ bytes, bytes.length ≤ programCapacity → ∃ loaded : Machine,
    machine.perform (.load bytes) = ⟨loaded, .done, [.loaded bytes.length]⟩ ∧
    loaded.memory.Image bytes ∧
    ∀ other, machine.SameHost other → (other.perform (.load bytes)).machine = loaded
  refuses : ∀ bytes, programCapacity < bytes.length →
    machine.perform (.load bytes) = ⟨machine, .failed (.programTooLarge bytes.length), []⟩
  reloads : (machine.perform .reload).machine =
    { (machine.perform (.load last.bytes)).machine with flags := machine.flags }

theorem run_loadsAfresh (mode : Mode) (clipsSprites : Bool) (calls : List Call) :
    ((initial mode clipsSprites).run calls).LoadsAfresh (Call.lastAccepted calls) := by
  have last : ((initial mode clipsSprites).run calls).program = Call.lastAccepted calls :=
    (initial mode clipsSprites).program_run calls
  generalize (initial mode clipsSprites).run calls = machine at last
  refine ⟨?_, fun bytes large => machine.perform_load_of_lt large, ?_⟩
  · intro bytes fits
    refine ⟨_, machine.perform_load_of_le fits, Memory.image_withProgram ⟨bytes, fits⟩, ?_⟩
    intro other same
    rw [other.perform_load_of_le fits]
    exact install_congr same _
  · rw [← last, machine.perform_load_of_le machine.program.fits]
    rfl

end Machine

end Chip8
