import Chip8.Proofs.Machine.Reset
import Chip8.Proofs.Machine.Run

/-! A program that has stopped stays stopped, whatever its host does, until a
program is loaded or started over. -/
namespace Chip8.Machine

/-- The state of the program itself, as opposed to that of the host's devices. -/
structure SameProgram (before after : Machine) : Prop where
  registers : after.registers = before.registers := by rfl
  index : after.index = before.index := by rfl
  memory : after.memory = before.memory := by rfl
  counter : after.counter = before.counter := by rfl
  stack : after.stack = before.stack := by rfl
  flags : after.flags = before.flags := by rfl
  runState : after.runState = before.runState := by rfl
  halted : after.halted = before.halted := by rfl
  fault : after.fault = before.fault := by rfl

theorem SameProgram.refl (machine : Machine) : machine.SameProgram machine where

theorem SameProgram.trans {before middle after : Machine} (first : before.SameProgram middle)
    (last : middle.SameProgram after) : before.SameProgram after where
  registers := last.registers.trans first.registers
  index := last.index.trans first.index
  memory := last.memory.trans first.memory
  counter := last.counter.trans first.counter
  stack := last.stack.trans first.stack
  flags := last.flags.trans first.flags
  runState := last.runState.trans first.runState
  halted := last.halted.trans first.halted
  fault := last.fault.trans first.fault

/-- Stopped for good, and not by a pause only. -/
def Ended (machine : Machine) : Prop := machine.halted = true ∨ machine.fault.isSome = true

theorem Ended.stopped {machine : Machine} (ended : machine.Ended) : machine.stopped = true := by
  rcases ended with halted | faulted
  · simp [Machine.stopped, halted]
  · simp [Machine.stopped, faulted]

theorem Ended.of_sameProgram {before after : Machine} (ended : before.Ended)
    (same : before.SameProgram after) : after.Ended := by
  unfold Ended
  rw [same.halted, same.fault]
  exact ended

/-- Besides cycles and resets nothing that drives a machine touches its program. -/
theorem perform_sameProgram (machine : Machine) (drives : Call.drives call = true)
    (kept : call.resets = false) (still : ∀ random, call ≠ .cycle random) :
    machine.SameProgram (machine.perform call).machine := by
  cases call with
  | load bytes =>
    rw [machine.load_of_not_resets kept]
    exact {}
  | loadFrom source =>
    rw [machine.loadFrom_of_not_resets kept]
    exact {}
  | reload => cases kept
  | togglePause => exact {}
  | setMode mode => exact {}
  | setDialect dialect => exact {}
  | cycle random => exact absurd rfl (still random)
  | tick => exact {}
  | press code => exact machine.perform_key_keeps .press machine.SameProgram (fun _ => {}) code
  | release code => exact machine.perform_key_keeps .release machine.SameProgram (fun _ => {}) code
  | takeUpdated => exact {}
  | _ => cases drives

theorem Ended.perform {machine : Machine} (ended : machine.Ended)
    (drives : Call.drives call = true) (kept : call.resets = false) :
    machine.SameProgram (machine.perform call).machine := by
  cases call with
  | cycle random =>
    simp only [Machine.perform, cycle_of_stopped ended.stopped]
    exact {}
  | _ =>
    apply machine.perform_sameProgram drives kept
    intro random same
    cases same

/-- The fault that a call reports, if it is a cycle that fails. -/
def reported (machine : Machine) : Call → Option Fault
  | .cycle random => (machine.cycle random).failure
  | _ => none

/-- The faults that the cycles of a run report, in their order. -/
def cycleFaults (machine : Machine) : List Call → List Fault
  | [] => []
  | call :: rest =>
    (machine.reported call).toList ++ (machine.perform call).machine.cycleFaults rest

theorem not_faulted_of_moving {machine : Machine} (moving : machine.stopped = false) :
    machine.fault = none := by
  simp only [Machine.stopped, Bool.or_eq_false_iff, Option.isSome_eq_false_iff,
    Option.isNone_iff_eq_none] at moving
  exact moving.2

/-- A cycle records what it reports, and it reports nothing once there is a record. -/
theorem fault_cycle (machine : Machine) (random : UInt8) :
    (machine.cycle random).machine.fault.toList =
      machine.fault.toList ++ (machine.cycle random).failure.toList := by
  cases failed : (machine.cycle random).failure with
  | none =>
    rw [(cycle_success failed).fault]
    exact (List.append_nil _).symm
  | some reason =>
    obtain ⟨moving, _, recorded⟩ := cycle_failure failed
    rw [recorded, not_faulted_of_moving moving]
    rfl

theorem fault_perform (machine : Machine) (kept : call.resets = false) :
    (machine.perform call).machine.fault.toList =
      machine.fault.toList ++ (machine.reported call).toList := by
  cases call with
  | cycle random => exact machine.fault_cycle random
  | execute random instruction =>
    have same : (machine.perform (.execute random instruction)).machine.fault = machine.fault :=
      (machine.execute_sameSetup random instruction).fault
    rw [same]
    exact (List.append_nil _).symm
  | _ =>
    rw [(machine.perform_sameCourse kept rfl).fault]
    exact (List.append_nil _).symm

variable {machine : Machine} {calls : List Call}

/-- What is recorded after a run is what was recorded before and what its cycles
reported. As there is one record only, they report at most one fault. -/
theorem fault_run (machine : Machine)
    (within : ∀ call ∈ calls, call.drives = true ∧ call.resets = false) :
    (machine.run calls).fault.toList = machine.fault.toList ++ machine.cycleFaults calls := by
  induction calls generalizing machine with
  | nil => exact (List.append_nil _).symm
  | cons call rest ih =>
    obtain ⟨_, kept⟩ := within call List.mem_cons_self
    have restRun := ih (machine.perform call).machine
      fun other member => within other (List.mem_cons_of_mem call member)
    rw [machine.fault_perform kept, List.append_assoc] at restRun
    exact restRun

theorem halted_run (halted : machine.halted = true)
    (within : ∀ call ∈ calls, call.drives = true ∧ call.resets = false) :
    (machine.run calls).halted = true := by
  apply run_keeps (fun reached => reached.halted = true) halted
  intro call member reached stillHalted
  obtain ⟨drives, kept⟩ := within call member
  have ended : reached.Ended := .inl stillHalted
  exact (ended.perform drives kept).halted.trans stillHalted

theorem Ended.run (ended : machine.Ended)
    (within : ∀ call ∈ calls, call.drives = true ∧ call.resets = false) :
    machine.SameProgram (machine.run calls) := by
  apply run_keeps machine.SameProgram (SameProgram.refl machine)
  intro call member reached same
  obtain ⟨drives, kept⟩ := within call member
  exact same.trans ((ended.of_sameProgram same).perform drives kept)

/-- A machine starts, and each reset leaves it, without a record of a fault. -/
theorem fault_of_fresh (mode : Mode) (clipsSprites : Bool) {history : List Call}
    (fresh : history = [] ∨
      ∃ earlier reset, history = earlier ++ [reset] ∧ reset.resets = true) :
    ((initial mode clipsSprites).run history).fault = none := by
  rcases fresh with none | ⟨earlier, reset, last, resets⟩
  · rw [none]
    rfl
  · obtain ⟨loaded, same⟩ := ((initial mode clipsSprites).run earlier).perform_of_resets resets
    rw [last, run_append]
    exact congrArg fault same

/-- What holds of a run between two resets. -/
structure Sticks (start : Machine) (calls : List Call) : Prop where
  once : (start.cycleFaults calls).length ≤ 1
  recorded : ∀ first, first <+: calls → (start.run first).fault = (start.cycleFaults first).head?
  halted : ∀ first, first <+: calls → (start.run first).halted = true →
    (start.run calls).halted = true
  /-- Once the program has ended, a cycle does nothing at all. -/
  idle : ∀ first, first <+: calls → (start.run first).Ended →
    ∀ random, (start.run first).cycle random = ⟨start.run first, none, []⟩
  untouched : ∀ first, first <+: calls → (start.run first).Ended →
    (start.run first).SameProgram (start.run calls)

/-- Stopping sticks: between two resets one fault at most is reported, which stays
on record, and nothing touches a program that has ended. -/
theorem run_sticks (mode : Mode) (clipsSprites : Bool) (history calls : List Call)
    (fresh : history = [] ∨
      ∃ earlier reset, history = earlier ++ [reset] ∧ reset.resets = true)
    (within : ∀ call ∈ calls, call.drives = true ∧ call.resets = false) :
    ((initial mode clipsSprites).run history).Sticks calls := by
  generalize reached : (initial mode clipsSprites).run history = start
  have clear : start.fault = none := reached ▸ fault_of_fresh mode clipsSprites fresh
  have record : ∀ first, first <+: calls → (start.run first).fault.toList = start.cycleFaults first := by
    intro first part
    have faults := fault_run start fun call member => within call (part.subset member)
    rw [clear] at faults
    exact faults
  refine ⟨?_, ?_, ?_, ?_, ?_⟩
  · rw [← record calls (List.prefix_refl calls)]
    exact Option.length_toList_le
  · intro first part
    rw [← record first part, Option.head?_toList]
  · rintro first ⟨rest, whole⟩ halted
    rw [← whole, run_append]
    exact halted_run halted fun call member => within call (whole ▸ List.mem_append_right first member)
  · intro first part ended random
    exact cycle_of_stopped ended.stopped
  · rintro first ⟨rest, whole⟩ ended
    rw [← whole, run_append]
    exact ended.run fun call member => within call (whole ▸ List.mem_append_right first member)

/-- A program that begins with a return faults in its first cycle. -/
theorem returning_program_sticks :
    let start := (initial .standard false).run [.load [0x00, 0xEE]]
    let calls := [.tick, .cycle 0, .setMode .extended, .togglePause, .cycle 0, .press 1]
    (start.cycle 0).failure = some .stackUnderflow ∧ start.Sticks calls := by
  intro start calls
  have fetched : start.currentOpcode = .ofBytes 0x00 0xEE :=
    currentOpcode_load _ ⟨[0x00, 0xEE], by decide⟩ (by decide)
  have decoded : start.currentInstruction = .ret :=
    (congrArg (Opcode.decode .standard) fetched).trans (by decide)
  have failed : (start.execute 0 start.currentInstruction).failure = some .stackUnderflow :=
    congrArg (fun instruction => (start.execute 0 instruction).failure) decoded
  have reported : (start.cycle 0).failure = some .stackUnderflow := by
    rw [cycle_of_running rfl rfl]
    exact (step_of_failure failed).1
  exact ⟨reported, run_sticks .standard false _ calls (.inr ⟨[], _, rfl, rfl⟩) (by decide)⟩

end Chip8.Machine
