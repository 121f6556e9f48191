import Chip8.Proofs.Machine.KeyMove
import Chip8.Proofs.Machine.Run
import Chip8.Proofs.Memory

/-! Which calls start a program from the beginning, and what the other calls of
loading do. -/
namespace Chip8

/-- The calls by which a host drives a machine without reaching into it. -/
def Call.drives : Call → Bool
  | load _ => true
  | loadFrom _ => true
  | reload => true
  | togglePause => true
  | setMode _ => true
  | setDialect _ => true
  | cycle _ => true
  | tick => true
  | press _ => true
  | release _ => true
  | takeUpdated => true
  | _ => false

/-- A program that is refused resets nothing. -/
def Call.resets : Call → Bool
  | load bytes => decide (bytes.length ≤ programCapacity)
  | loadFrom source => decide (source.bytes.length ≤ programCapacity) && source.failure.isNone
  | reload => true
  | _ => false

/-- The call may execute an instruction. -/
def Call.executes : Call → Bool
  | cycle _ => true
  | execute .. => true
  | _ => false

namespace Machine

theorem load_of_le (machine : Machine) (fits : bytes.length ≤ programCapacity) :
    machine.load bytes = .ok (machine.install ⟨bytes, fits⟩) :=
  dif_pos fits

theorem load_of_lt (machine : Machine) (large : programCapacity < bytes.length) :
    machine.load bytes = .error (.programTooLarge bytes.length) :=
  dif_neg (Nat.not_le.mpr large)

theorem loadFrom_of_le (machine : Machine) (fits : source.bytes.length ≤ programCapacity)
    (ended : source.failure = none) :
    machine.loadFrom source = .ok (machine.install ⟨source.bytes, fits⟩) := by
  have whole : source.bytes.take (programCapacity + 1) = source.bytes :=
    List.take_of_length_le (Nat.le_succ_of_le fits)
  simp only [loadFrom, ended, whole, machine.load_of_le fits]
  rfl

theorem loadFrom_of_failure (machine : Machine) (fits : source.bytes.length ≤ programCapacity)
    (failed : source.failure = some cause) :
    machine.loadFrom source = .error (.unreadable cause) := by
  have whole : source.bytes.take (programCapacity + 1) = source.bytes :=
    List.take_of_length_le (Nat.le_succ_of_le fits)
  simp only [loadFrom, failed, whole, if_pos fits]

/-- However long the source goes on, one byte too many is reported. -/
theorem loadFrom_of_lt (machine : Machine) (large : programCapacity < source.bytes.length) :
    machine.loadFrom source = .error (.rejected (.programTooLarge (programCapacity + 1))) := by
  have length : (source.bytes.take (programCapacity + 1)).length = programCapacity + 1 :=
    List.length_take_of_le large
  have beyond : ¬ programCapacity + 1 ≤ programCapacity := Nat.not_succ_le_self _
  have refused := machine.load_of_lt (Nat.lt_of_lt_of_eq (Nat.lt_succ_self _) length.symm)
  simp only [loadFrom, length, if_neg beyond, refused]
  cases source.failure with
  | none => rfl
  | some cause => rfl

/-- A call that resets restarts the machine, perhaps with another program. -/
theorem perform_of_resets (machine : Machine) (resets : Call.resets call = true) :
    ∃ loaded : Machine, (machine.perform call).machine = loaded.restart := by
  cases call with
  | load bytes =>
    have fits : bytes.length ≤ programCapacity := of_decide_eq_true resets
    simp only [perform, machine.load_of_le fits]
    exact ⟨_, rfl⟩
  | loadFrom source =>
    obtain ⟨short, ended⟩ := (Bool.and_eq_true _ _).mp resets
    have fits : source.bytes.length ≤ programCapacity := of_decide_eq_true short
    simp only [perform, machine.loadFrom_of_le fits (Option.isNone_iff_eq_none.mp ended)]
    exact ⟨_, rfl⟩
  | reload => exact ⟨machine, rfl⟩
  | _ => cases resets

theorem load_of_not_resets (machine : Machine) (refused : (Call.load bytes).resets = false) :
    (machine.perform (.load bytes)).machine = machine := by
  have large : programCapacity < bytes.length := Nat.not_le.mp (of_decide_eq_false refused)
  simp only [perform, machine.load_of_lt large]
  rfl

theorem loadFrom_of_not_resets (machine : Machine)
    (refused : (Call.loadFrom source).resets = false) :
    (machine.perform (.loadFrom source)).machine = machine := by
  by_cases fits : source.bytes.length ≤ programCapacity
  · cases ended : source.failure with
    | none =>
      simp [Call.resets, fits, ended] at refused
    | some cause =>
      simp only [perform, machine.loadFrom_of_failure fits ended]
      rfl
  · simp only [perform, machine.loadFrom_of_lt (Nat.not_le.mp fits)]
    rfl

/-- The parts of a machine that hosts have no call for, but to reset them. -/
structure SameCourse (before after : Machine) : Prop where
  counter : after.counter = before.counter := by rfl
  stack : after.stack = before.stack := by rfl
  flags : after.flags = before.flags := by rfl
  runState : after.runState = before.runState := by rfl
  program : after.program = before.program := by rfl
  halted : after.halted = before.halted := by rfl
  fault : after.fault = before.fault := by rfl

theorem perform_sameCourse (machine : Machine) (kept : call.resets = false)
    (idle : call.executes = false) : machine.SameCourse (machine.perform call).machine := by
  cases call with
  | load bytes =>
    rw [machine.load_of_not_resets kept]
    exact {}
  | loadFrom source =>
    rw [machine.loadFrom_of_not_resets kept]
    exact {}
  | reload => cases kept
  | cycle random => cases idle
  | execute random instruction => cases idle
  | press code => exact machine.perform_key_keeps .press machine.SameCourse (fun _ => {}) code
  | release code => exact machine.perform_key_keeps .release machine.SameCourse (fun _ => {}) code
  | _ => exact {}

/-- A machine that runs in an unchanged program executes what the program has there. -/
theorem currentOpcode_of_program {machine : Machine} {program : Program} {position : Nat}
    (unchanged : machine.memory = .withProgram program)
    (place : machine.counter.toNat = programStart + position)
    (two : position + 1 < program.bytes.length) :
    machine.currentOpcode = .ofBytes program.bytes[position] program.bytes[position + 1] := by
  rw [currentOpcode, unchanged]
  exact Memory.opcodeAt_withProgram program place two

theorem run_load (machine : Machine) (program : Program) (rest : List Call) :
    machine.run (.load program.bytes :: rest) = (machine.install program).run rest := by
  simp only [run, List.foldl, perform, machine.load_of_le program.fits]

/-- A program that was just loaded starts to run with its first two bytes. -/
theorem currentOpcode_load (machine : Machine) (program : Program)
    (two : 1 < program.bytes.length) :
    (machine.run [.load program.bytes]).currentOpcode =
      .ofBytes program.bytes[0] program.bytes[1] := by
  rw [run_load]
  exact currentOpcode_of_program rfl rfl two

end Machine

end Chip8
