import Chip8.Host.Call
import Chip8.Proofs.Machine.Course

/-! One call, one cycle and one execution, and what a run keeps because all of
its calls do. -/
namespace Chip8.Machine

theorem run_append (machine : Machine) (first last : List Call) :
    machine.run (first ++ last) = (machine.run first).run last := List.foldl_append

/-- What every call of a run keeps, the run keeps. -/
theorem run_keeps (holds : Machine → Prop) {machine : Machine} {calls : List Call}
    (start : holds machine)
    (keeps : ∀ call ∈ calls, ∀ {reached : Machine}, holds reached → holds (reached.perform call).machine) :
    holds (machine.run calls) := by
  induction calls generalizing machine with
  | nil => exact start
  | cons call rest ih =>
    apply ih (keeps call List.mem_cons_self start)
    intro other member
    exact keeps other (List.mem_cons_of_mem call member)

/-- What the calls of a run keep one after the other, knowing which calls came
before, the run keeps. -/
theorem run_along (holds : List Call → Machine → Prop) {machine : Machine} {calls : List Call}
    (start : holds [] machine)
    (keeps : ∀ first call, first ++ [call] <+: calls → holds first (machine.run first) →
      holds (first ++ [call]) ((machine.run first).perform call).machine) :
    holds calls (machine.run calls) := by
  have onward : ∀ rest first, first ++ rest = calls → holds first (machine.run first) →
      holds calls (machine.run calls) := by
    intro rest
    induction rest with
    | nil =>
      intro first whole kept
      rw [List.append_nil] at whole
      exact whole ▸ kept
    | cons call rest ih =>
      intro first whole kept
      have split : first ++ [call] ++ rest = calls := (List.append_assoc _ _ _).trans whole
      apply ih (first ++ [call]) split
      rw [run_append]
      exact keeps first call ⟨rest, split⟩ kept
  exact onward calls [] rfl start

/-- A part of a machine that a call either sets or keeps is what the last of the calls
that set it made it. -/
theorem run_last (part : Machine → α) {set? : Call → Option α}
    (each : ∀ (machine : Machine) call,
      part (machine.perform call).machine = (set? call).getD (part machine))
    (machine : Machine) (calls : List Call) :
    part (machine.run calls) = (calls.filterMap set?).getLast?.getD (part machine) := by
  induction calls generalizing machine with
  | nil => rfl
  | cons call rest ih =>
    have restRun := ih (machine.perform call).machine
    rw [each] at restRun
    cases taken : set? call with
    | none =>
      rw [taken] at restRun
      rw [List.filterMap_cons_none taken]
      exact restRun
    | some value =>
      rw [taken] at restRun
      rw [List.filterMap_cons_some taken, List.getLast?_cons]
      exact restRun

/-- What comes of an effect, or of a refusal: only the counter is still to move. -/
def conclude (machine : Machine) : Except Fault Effect → Outcome
  | .error reason => ⟨machine, some reason, []⟩
  | .ok made =>
    match made.flow.target machine.counter with
    | .error reason => ⟨made.machine, some reason, made.log⟩
    | .ok counter => ⟨{ made.machine with counter }, none, made.log⟩

/-- The counter moves on from where the instruction stood, since nothing has moved it before. -/
theorem execute_eq (machine : Machine) (random : UInt8) (instruction : Instruction) :
    machine.execute random instruction = machine.conclude (machine.effect random instruction) := by
  unfold execute Instruction.action
  cases done : machine.effect random instruction with
  | error reason =>
    rw [EStateM.run_bind, run_work_of_error done]
    rfl
  | ok made =>
    have standing := (course_of_effect done).counter
    rw [EStateM.run_bind, run_work_of_ok done, conclude, ← standing]
    change Outcome.ofRun ((Action.check (made.flow.target made.machine.counter) >>= _).run _) = _
    cases made.flow.target made.machine.counter with
    | error reason => rfl
    | ok counter => rfl

theorem execute_of_refusal {machine : Machine}
    (refused : machine.effect random instruction = .error reason) :
    machine.execute random instruction = ⟨machine, some reason, []⟩ := by
  rw [execute_eq, refused, conclude]

theorem execute_of_blocked {machine : Machine}
    (done : machine.effect random instruction = .ok made)
    (blocked : made.flow.target machine.counter = .error reason) :
    machine.execute random instruction = ⟨made.machine, some reason, made.log⟩ := by
  rw [execute_eq, done, conclude, blocked]

theorem execute_of_moved {machine : Machine}
    (done : machine.effect random instruction = .ok made)
    (moved : made.flow.target machine.counter = .ok target) :
    machine.execute random instruction = ⟨{ made.machine with counter := target }, none, made.log⟩ := by
  rw [execute_eq, done, conclude, moved]

/-- All that an execution can come to: a refusal, an effect after which there is no place to
go on, or an effect and a move of the counter. -/
theorem execute_cases (machine : Machine) (random : UInt8) (instruction : Instruction) :
    (∃ reason, machine.effect random instruction = .error reason ∧
      machine.execute random instruction = ⟨machine, some reason, []⟩) ∨
    (∃ made reason, machine.effect random instruction = .ok made ∧
      made.flow.target machine.counter = .error reason ∧
      machine.execute random instruction = ⟨made.machine, some reason, made.log⟩) ∨
    ∃ made counter, machine.effect random instruction = .ok made ∧
      made.flow.target machine.counter = .ok counter ∧
      machine.execute random instruction = ⟨{ made.machine with counter }, none, made.log⟩ := by
  cases done : machine.effect random instruction with
  | error reason => exact .inl ⟨reason, rfl, execute_of_refusal done⟩
  | ok made =>
    cases moved : made.flow.target machine.counter with
    | error reason => exact .inr (.inl ⟨made, reason, rfl, moved, execute_of_blocked done moved⟩)
    | ok counter => exact .inr (.inr ⟨made, counter, rfl, moved, execute_of_moved done moved⟩)

/-- An execution fails before its effect, or after it for want of a place to go on. -/
theorem execute_failure {machine : Machine}
    (failed : (machine.execute random instruction).failure = some reason) :
    (machine.effect random instruction = .error reason ∧
      (machine.execute random instruction).machine = machine) ∨
    ∃ made, machine.effect random instruction = .ok made ∧
      made.flow.target machine.counter = .error reason ∧
      (machine.execute random instruction).machine = made.machine := by
  rcases machine.execute_cases random instruction with
    ⟨other, refused, same⟩ | ⟨made, other, done, blocked, same⟩ | ⟨made, counter, _, _, same⟩
  · rw [same] at failed ⊢
    cases failed
    exact .inl ⟨refused, rfl⟩
  · rw [same] at failed ⊢
    cases failed
    exact .inr ⟨made, done, blocked, rfl⟩
  · rw [same] at failed
    cases failed

/-- An execution that does not fail is its effect and a move of the counter. -/
theorem execute_success {machine : Machine}
    (succeeded : (machine.execute random instruction).failure = none) :
    ∃ made target, machine.effect random instruction = .ok made ∧
      made.flow.target machine.counter = .ok target ∧
      (machine.execute random instruction).machine = { made.machine with counter := target } := by
  rcases machine.execute_cases random instruction with
    ⟨reason, _, same⟩ | ⟨made, reason, _, _, same⟩ | ⟨made, target, done, moved, same⟩
  · rw [same] at succeeded
    cases succeeded
  · rw [same] at succeeded
    cases succeeded
  · rw [same]
    exact ⟨made, target, done, moved, rfl⟩

/-- An execution keeps what every effect keeps, wherever the counter goes. -/
theorem execute_holds (holds : Machine → Prop) {machine : Machine} (start : holds machine)
    (effect : ∀ {made}, machine.effect random instruction = .ok made → holds made.machine)
    (moved : ∀ {reached : Machine}, holds reached → ∀ counter, holds { reached with counter }) :
    holds (machine.execute random instruction).machine := by
  rcases machine.execute_cases random instruction with
    ⟨_, _, same⟩ | ⟨made, _, done, _, same⟩ | ⟨made, counter, done, _, same⟩
  · rw [same]
    exact start
  · rw [same]
    exact effect done
  · rw [same]
    exact moved (effect done) counter

/-- So does it keep what every course keeps. -/
theorem execute_keeps (holds : Machine → Prop) {machine : Machine} (start : holds machine)
    (course : ∀ {made}, machine.Course made → holds made.machine)
    (moved : ∀ {reached : Machine}, holds reached → ∀ counter, holds { reached with counter }) :
    holds (machine.execute random instruction).machine :=
  execute_holds holds start (fun done => course (course_of_effect done)) moved

/-- A part of a machine that an execution changes only by the effect of its instruction:
not by the move of the counter after it, nor by the record of a fault. -/
structure OfEffect (part : Machine → α) : Prop where
  moved : ∀ machine counter, part { machine with counter } = part machine := by intros; rfl
  recorded : ∀ machine fault, part { machine with fault } = part machine := by intros; rfl

theorem OfEffect.execute {part : Machine → α} (ofEffect : OfEffect part) {machine : Machine}
    (done : machine.effect random instruction = .ok made) :
    part (machine.execute random instruction).machine = part made.machine := by
  cases moved : made.flow.target machine.counter with
  | error reason => rw [execute_of_blocked done moved]
  | ok target => rw [execute_of_moved done moved, ofEffect.moved]

/-- A refused execution keeps such a part, any other one leaves it as the effect does. -/
theorem OfEffect.execute_cases {part : Machine → α} (ofEffect : OfEffect part) (machine : Machine)
    (random : UInt8) (instruction : Instruction) :
    part (machine.execute random instruction).machine = part machine ∨
      ∃ made, machine.effect random instruction = .ok made ∧
        part (machine.execute random instruction).machine = part made.machine := by
  cases done : machine.effect random instruction with
  | error reason =>
    rw [execute_of_refusal done]
    exact .inl rfl
  | ok made => exact .inr ⟨made, rfl, ofEffect.execute done⟩

/-- What no instruction changes: the choices of the host, and the record of an
earlier fault. -/
structure SameSetup (before after : Machine) : Prop where
  mode : after.mode = before.mode := by rfl
  dialect : after.dialect = before.dialect := by rfl
  program : after.program = before.program := by rfl
  paused : after.paused = before.paused := by rfl
  fault : after.fault = before.fault := by rfl

theorem Course.sameSetup {machine : Machine} (course : machine.Course made) :
    machine.SameSetup made.machine := by
  cases course with
  | next kept => exact ⟨kept.mode, kept.dialect, kept.program, kept.paused, kept.fault⟩
  | skip => exact {}
  | stay => exact {}
  | jump => exact {}
  | call room => exact {}
  | ret opened past => exact {}

theorem execute_sameSetup (machine : Machine) (random : UInt8) (instruction : Instruction) :
    machine.SameSetup (machine.execute random instruction).machine := by
  apply execute_keeps machine.SameSetup
  · exact {}
  · intro made course
    exact course.sameSetup
  · intro reached same counter
    exact { same with }

theorem cycle_of_stopped {machine : Machine} (stopped : machine.stopped = true) :
    machine.cycle random = ⟨machine, none, []⟩ := by
  simp [cycle, stopped]

theorem cycle_of_awaiting {machine : Machine} (moving : machine.stopped = false)
    (waiting : machine.runState = .awaiting x) :
    machine.cycle random = ⟨machine.deliverKey x, none, []⟩ := by
  simp [cycle, moving, waiting]

theorem cycle_of_running {machine : Machine} (moving : machine.stopped = false)
    (running : machine.runState = .running) : machine.cycle random = machine.step random := by
  simp [cycle, moving, running]

/-- All that a cycle can do: nothing, to look for a key, or one step. -/
theorem cycle_cases (machine : Machine) (random : UInt8) :
    (machine.stopped = true ∧ machine.cycle random = ⟨machine, none, []⟩) ∨
    (∃ x, machine.stopped = false ∧ machine.runState = .awaiting x ∧
      machine.cycle random = ⟨machine.deliverKey x, none, []⟩) ∨
    (machine.stopped = false ∧ machine.runState = .running ∧
      machine.cycle random = machine.step random) := by
  cases stopped : machine.stopped with
  | true => exact .inl ⟨rfl, cycle_of_stopped stopped⟩
  | false =>
    cases state : machine.runState with
    | awaiting x => exact .inr (.inl ⟨x, rfl, rfl, cycle_of_awaiting stopped state⟩)
    | running => exact .inr (.inr ⟨rfl, rfl, cycle_of_running stopped state⟩)

theorem step_of_failure {machine : Machine}
    (failed : (machine.execute random machine.currentInstruction).failure = some reason) :
    (machine.step random).failure = some reason ∧ (machine.step random).machine =
      { (machine.execute random machine.currentInstruction).machine with fault := some reason } := by
  simp [step, failed]

theorem step_of_success {machine : Machine}
    (succeeded : (machine.execute random machine.currentInstruction).failure = none) :
    (machine.step random).failure = none ∧ (machine.step random).machine =
      (machine.execute random machine.currentInstruction).machine := by
  simp [step, succeeded]

/-- A step is the execution of the current instruction, and a record of its fault. -/
theorem step_eq (machine : Machine) (random : UInt8) :
    ∃ fault, (machine.step random).machine =
      { (machine.execute random machine.currentInstruction).machine with fault } := by
  cases result : (machine.execute random machine.currentInstruction).failure with
  | none => exact ⟨_, (step_of_success result).2⟩
  | some reason => exact ⟨_, (step_of_failure result).2⟩

theorem failure_step (machine : Machine) (random : UInt8) :
    (machine.step random).failure =
      (machine.execute random machine.currentInstruction).failure := by
  cases result : (machine.execute random machine.currentInstruction).failure with
  | none => exact (step_of_success result).1
  | some reason => exact (step_of_failure result).1

/-- A cycle fails where it executes an instruction that fails, and only there. -/
theorem cycle_failure {machine : Machine} (failed : (machine.cycle random).failure = some reason) :
    machine.stopped = false ∧
    (machine.execute random machine.currentInstruction).failure = some reason ∧
    (machine.cycle random).machine =
      { (machine.execute random machine.currentInstruction).machine with fault := some reason } := by
  rcases machine.cycle_cases random with ⟨_, same⟩ | ⟨x, _, _, same⟩ | ⟨moving, _, same⟩
  · rw [same] at failed
    cases failed
  · rw [same] at failed
    cases failed
  · rw [same] at failed ⊢
    rw [failure_step] at failed
    exact ⟨moving, failed, (step_of_failure failed).2⟩

theorem deliverKey_frame (machine : Machine) (x : Register) :
    ∃ keypad registers runState, machine.deliverKey x = { machine with keypad, registers, runState } := by
  unfold deliverKey
  split
  · exact ⟨_, _, _, rfl⟩
  · exact ⟨_, _, _, rfl⟩

theorem deliverKey_sameSetup (machine : Machine) (x : Register) :
    machine.SameSetup (machine.deliverKey x) := by
  obtain ⟨keypad, registers, runState, frame⟩ := machine.deliverKey_frame x
  rw [frame]
  exact {}

/-- A cycle that reports no fault records none. -/
theorem cycle_success {machine : Machine} (succeeded : (machine.cycle random).failure = none) :
    machine.SameSetup (machine.cycle random).machine := by
  rcases machine.cycle_cases random with ⟨_, same⟩ | ⟨x, _, _, same⟩ | ⟨_, _, same⟩
  · rw [same]
    exact {}
  · rw [same]
    exact machine.deliverKey_sameSetup x
  · rw [same, failure_step] at succeeded
    rw [same, (step_of_success succeeded).2]
    exact machine.execute_sameSetup random machine.currentInstruction

end Chip8.Machine
