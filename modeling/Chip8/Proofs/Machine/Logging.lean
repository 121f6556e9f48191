import Chip8.Proofs.Machine.Failure
import Chip8.Proofs.Machine.Reporting
import Chip8.Proofs.Machine.Stopping

/-! The log. A cycle that executes an instruction tells of it, then what the instruction
announces, and last the fault that stopped it, if one did. All other cycles are silent. -/
namespace Chip8

/-- What an instruction announces besides being executed. -/
def Instruction.announced : Instruction → List Event
  | exit => [.exited]
  | setResolution resolution => [.screenSwitched resolution]
  | _ => []

namespace Event

/-- The place and the instruction of a trace. -/
def traced? : Event → Option (Address × Instruction)
  | executing counter instruction => some (counter, instruction)
  | _ => none

/-- The fault of a warning. -/
def warned? : Event → Option Fault
  | stopped _ reason => some reason
  | _ => none

/-- The lines that a log has at one level. -/
def lines (heard : Level) (log : List Event) : List String :=
  (log.filter fun event => event.level = heard).map line

theorem lines_append (heard : Level) (first last : List Event) :
    lines heard (first ++ last) = lines heard first ++ lines heard last := by
  rw [lines, List.filter_append, List.map_append]
  rfl

theorem lines_of_other {heard : Level} {log : List Event}
    (other : ∀ event ∈ log, event.level ≠ heard) : lines heard log = [] := by
  rw [lines, List.filter_eq_nil_iff.mpr, List.map_nil]
  intro event member same
  exact other event member (of_decide_eq_true same)

/-- Each warning is of one fault. -/
theorem length_lines_warn (log : List Event) :
    (lines .warn log).length = (log.filterMap warned?).length := by
  have same : (fun event : Event => decide (event.level = .warn)) =
      fun event => event.warned?.isSome := by
    funext event
    cases event with
    | _ => rfl
  rw [lines, List.length_map, ← List.countP_eq_length_filter, List.length_filterMap_eq_countP, same]

/-- What neither traces nor warns. -/
theorem unpicked {event : Event} (quiet : event.level = .info ∨ event.level = .debug) :
    event.traced? = none ∧ event.warned? = none := by
  cases event with
  | executing counter instruction => rcases quiet with info | debug <;> contradiction
  | stopped counter reason => rcases quiet with info | debug <;> contradiction
  | _ => exact ⟨rfl, rfl⟩

end Event

theorem Instruction.level_of_announced {instruction : Instruction} {event : Event}
    (told : event ∈ instruction.announced) : event.level = .info := by
  cases instruction with
  | exit =>
    rw [List.mem_singleton.mp told]
    rfl
  | setResolution resolution =>
    rw [List.mem_singleton.mp told]
    rfl
  | _ => cases told

theorem Instruction.lines_announced_info (instruction : Instruction) :
    Event.lines .info instruction.announced = instruction.announced.map Event.line := by
  rw [Event.lines, List.filter_eq_self.mpr]
  intro event told
  exact decide_eq_true (level_of_announced told)

theorem Instruction.announced_ne_nil_iff {instruction : Instruction} :
    instruction.announced ≠ [] ↔
      instruction = .exit ∨ ∃ resolution, instruction = .setResolution resolution := by
  cases instruction with
  | exit => simp [announced]
  | setResolution resolution => simp [announced]
  | _ => simp [announced]

namespace Machine

variable {machine : Machine}

theorem log_of_effect (done : machine.effect random instruction = .ok made) :
    made.log = instruction.announced := by
  cases instruction with
  | ret =>
    obtain ⟨caller, outer, target, _, _, rfl⟩ := made_of_ret done
    rfl
  | jump address =>
    obtain ⟨target, _, rfl⟩ := made_of_jump done
    rfl
  | call address =>
    obtain ⟨target, _, _, rfl⟩ := made_of_call done
    rfl
  | jumpOffset x address =>
    obtain ⟨target, rfl⟩ := made_of_jumpOffset done
    rfl
  | draw x y rows =>
    obtain ⟨bytes, _, rfl⟩ := made_of_draw done
    rfl
  | drawBig x y =>
    obtain ⟨bytes, _, rfl⟩ := made_of_drawBig done
    rfl
  | storeDigits x =>
    obtain ⟨memory, _, rfl⟩ := made_of_storeDigits done
    rfl
  | storeRegisters last =>
    obtain ⟨memory, _, rfl⟩ := made_of_storeRegisters done
    rfl
  | loadRegisters last =>
    obtain ⟨bytes, _, rfl⟩ := made_of_loadRegisters done
    rfl
  | unknown opcode => cases done
  | _ =>
    cases done
    rfl

/-- What announces itself is never refused. -/
theorem announced_of_refusal (refused : machine.effect random instruction = .error reason) :
    instruction.announced = [] := by
  cases instruction with
  | exit => cases refused
  | setResolution resolution => cases refused
  | _ => rfl

/-- An instruction announces itself even where the counter cannot move on after it. -/
theorem log_execute (machine : Machine) (random : UInt8) (instruction : Instruction) :
    (machine.execute random instruction).log = instruction.announced := by
  rcases machine.execute_cases random instruction with
    ⟨reason, refused, same⟩ | ⟨made, reason, done, _, same⟩ | ⟨made, counter, done, _, same⟩
  · rw [same, announced_of_refusal refused]
  · rw [same, ← log_of_effect done]
  · rw [same, ← log_of_effect done]

/-- A fault is told with the place of its instruction, because the counter stays there. -/
theorem log_step (machine : Machine) (random : UInt8) :
    (machine.step random).log =
      .executing machine.counter.toAddress machine.currentInstruction ::
        (machine.currentInstruction.announced ++
          (machine.step random).failure.toList.map (.stopped machine.counter.toAddress)) := by
  have executed := machine.log_execute random machine.currentInstruction
  cases failed : (machine.execute random machine.currentInstruction).failure with
  | none => simp [step, failed, executed]
  | some reason =>
    have stayed := (leftAsWas_of_failure failed).counter
    simp [step, failed, executed, stayed]

theorem cycle_of_idle (idle : machine.executed? (.cycle random) = none) :
    (machine.cycle random).log = [] ∧ (machine.cycle random).failure = none := by
  rcases machine.cycle_cases random with ⟨_, same⟩ | ⟨x, _, _, same⟩ | ⟨moving, running, _⟩
  · rw [same]
    exact ⟨rfl, rfl⟩
  · rw [same]
    exact ⟨rfl, rfl⟩
  · rw [executed_of_running moving running] at idle
    cases idle

theorem log_cycle_of_executed (executed : machine.executed? (.cycle random) = some instruction) :
    (machine.cycle random).log = .executing machine.counter.toAddress instruction ::
      (instruction.announced ++
        (machine.cycle random).failure.toList.map (.stopped machine.counter.toAddress)) := by
  obtain ⟨fetched, same⟩ := cycle_of_executed executed
  rw [same, log_step, fetched]

/-- Only cycles trace and warn. An execution by the host announces itself, and other calls
tell of what the host has asked for. -/
theorem level_of_call {event : Event} (other : ∀ random, call ≠ .cycle random)
    (told : event ∈ (machine.perform call).log) : event.level = .info ∨ event.level = .debug := by
  cases call with
  | load bytes =>
    simp only [perform] at told
    split at told
    · rw [List.mem_singleton.mp told]
      exact .inr rfl
    · cases told
  | loadFrom source =>
    simp only [perform] at told
    split at told
    · rw [List.mem_singleton.mp told]
      exact .inr rfl
    · cases told
  | reload =>
    rw [List.mem_singleton.mp told]
    exact .inr rfl
  | togglePause =>
    rw [List.mem_singleton.mp told]
    exact .inl rfl
  | setMode mode =>
    rw [List.mem_singleton.mp told]
    exact .inl rfl
  | cycle random => exact absurd rfl (other random)
  | execute random instruction =>
    have announced : event ∈ (machine.execute random instruction).log := told
    rw [log_execute] at announced
    exact .inl (Instruction.level_of_announced announced)
  | _ => cases told

/-- The instruction that a cycle executes, and its place. -/
def fetched? (machine : Machine) : Call → Option (Address × Instruction)
  | .cycle random =>
    (machine.executed? (.cycle random)).map fun instruction => (machine.counter.toAddress, instruction)
  | _ => none

/-- The instructions that the cycles of a run execute, each with its place. -/
def trail (machine : Machine) : List Call → List (Address × Instruction)
  | [] => []
  | call :: rest => (machine.fetched? call).toList ++ (machine.perform call).machine.trail rest

/-- All that the calls of a run tell, in their order. -/
def runLog (machine : Machine) : List Call → List Event
  | [] => []
  | call :: rest => (machine.perform call).log ++ (machine.perform call).machine.runLog rest

theorem filterMap_announced {pick : Event → Option α} (instruction : Instruction)
    (unpicked : ∀ event : Event, event.level = .info → pick event = none) :
    instruction.announced.filterMap pick = [] :=
  List.filterMap_eq_nil_iff.mpr fun event told =>
    unpicked event (Instruction.level_of_announced told)

theorem traced_cycle (machine : Machine) (random : UInt8) :
    (machine.cycle random).log.filterMap Event.traced? = (machine.fetched? (.cycle random)).toList := by
  cases executed : machine.executed? (.cycle random) with
  | none =>
    rw [(cycle_of_idle executed).1]
    simp only [fetched?, executed]
    rfl
  | some instruction =>
    have announced := filterMap_announced instruction fun event info => (Event.unpicked (.inl info)).1
    rw [log_cycle_of_executed executed, List.filterMap_cons, List.filterMap_append, announced]
    simp only [fetched?, executed]
    cases (machine.cycle random).failure with
    | none => rfl
    | some reason => rfl

theorem warned_cycle (machine : Machine) (random : UInt8) :
    (machine.cycle random).log.filterMap Event.warned? = (machine.cycle random).failure.toList := by
  cases executed : machine.executed? (.cycle random) with
  | none =>
    obtain ⟨silent, succeeded⟩ := cycle_of_idle executed
    rw [silent, succeeded]
    rfl
  | some instruction =>
    have announced := filterMap_announced instruction fun event info => (Event.unpicked (.inl info)).2
    rw [log_cycle_of_executed executed, List.filterMap_cons, List.filterMap_append, announced]
    cases (machine.cycle random).failure with
    | none => rfl
    | some reason => rfl

theorem traced_perform (machine : Machine) (call : Call) :
    (machine.perform call).log.filterMap Event.traced? = (machine.fetched? call).toList := by
  cases call with
  | cycle random => exact machine.traced_cycle random
  | _ =>
    apply List.filterMap_eq_nil_iff.mpr
    intro event told
    exact (Event.unpicked (level_of_call (fun _ => Call.noConfusion) told)).1

theorem warned_perform (machine : Machine) (call : Call) :
    (machine.perform call).log.filterMap Event.warned? = (machine.reported call).toList := by
  cases call with
  | cycle random => exact machine.warned_cycle random
  | _ =>
    apply List.filterMap_eq_nil_iff.mpr
    intro event told
    exact (Event.unpicked (level_of_call (fun _ => Call.noConfusion) told)).2

/-- A run traces the instructions that its cycles execute, and no others. -/
theorem traced_run (machine : Machine) (calls : List Call) :
    (machine.runLog calls).filterMap Event.traced? = machine.trail calls := by
  induction calls generalizing machine with
  | nil => rfl
  | cons call rest ih => rw [runLog, List.filterMap_append, traced_perform, ih, trail]

/-- What is on record after a run without a reset was there before or was warned of. As
there is one record only, there is one warning at most. -/
theorem warned_run (machine : Machine) (kept : ∀ call ∈ calls, call.resets = false) :
    (machine.run calls).fault.toList =
      machine.fault.toList ++ (machine.runLog calls).filterMap Event.warned? := by
  induction calls generalizing machine with
  | nil => exact (List.append_nil _).symm
  | cons call rest ih =>
    have restRun := ih (machine.perform call).machine
      fun other member => kept other (List.mem_cons_of_mem call member)
    rw [machine.fault_perform (kept call List.mem_cons_self), ← warned_perform,
      List.append_assoc] at restRun
    rw [runLog, List.filterMap_append]
    exact restRun

/-- The lines of a cycle that executes an instruction, at one level. -/
theorem lines_cycle_of_executed (executed : machine.executed? (.cycle random) = some instruction)
    (heard : Level) :
    Event.lines heard (machine.cycle random).log =
      Event.lines heard [.executing machine.counter.toAddress instruction] ++
        (Event.lines heard instruction.announced ++
          Event.lines heard
            ((machine.cycle random).failure.toList.map (.stopped machine.counter.toAddress))) := by
  rw [log_cycle_of_executed executed, ← Event.lines_append, ← Event.lines_append]
  rfl

theorem lines_announced (instruction : Instruction) {heard : Level} (other : heard ≠ .info) :
    Event.lines heard instruction.announced = [] := by
  apply Event.lines_of_other
  intro event told same
  exact other (same.symm.trans (Instruction.level_of_announced told))

theorem trace_of_executed (executed : machine.executed? (.cycle random) = some instruction) :
    Event.lines .trace (machine.cycle random).log =
      ["TRACE: " ++ (machine.counter.toAddress.text ++ ": " ++ instruction.text)] := by
  rw [lines_cycle_of_executed executed, lines_announced instruction (by decide)]
  cases (machine.cycle random).failure with
  | none => rfl
  | some reason => rfl

theorem warnings_cycle (machine : Machine) (random : UInt8) :
    Event.lines .warn (machine.cycle random).log =
      (machine.cycle random).failure.toList.map fun reason => "WARN: " ++
        ("execution stopped at " ++ machine.counter.toAddress.text ++ ": " ++ reason.message) := by
  cases executed : machine.executed? (.cycle random) with
  | none =>
    obtain ⟨silent, succeeded⟩ := cycle_of_idle executed
    rw [silent, succeeded]
    rfl
  | some instruction =>
    rw [lines_cycle_of_executed executed, lines_announced instruction (by decide)]
    cases (machine.cycle random).failure with
    | none => rfl
    | some reason => rfl

theorem infos_of_executed (executed : machine.executed? (.cycle random) = some instruction) :
    Event.lines .info (machine.cycle random).log = instruction.announced.map Event.line := by
  have warned : Event.lines .info ((machine.cycle random).failure.toList.map
      (.stopped machine.counter.toAddress)) = [] := by
    cases (machine.cycle random).failure with
    | none => rfl
    | some reason => rfl
  rw [lines_cycle_of_executed executed, warned, Instruction.lines_announced_info, List.append_nil]
  rfl

theorem announces_cycle_iff (machine : Machine) (random : UInt8) :
    Event.lines .info (machine.cycle random).log ≠ [] ↔
      ∃ instruction, machine.executed? (.cycle random) = some instruction ∧
        (instruction = .exit ∨ ∃ resolution, instruction = .setResolution resolution) := by
  cases executed : machine.executed? (.cycle random) with
  | none => simp [(cycle_of_idle executed).1, Event.lines]
  | some instruction =>
    rw [infos_of_executed executed]
    simp [Instruction.announced_ne_nil_iff]

/-- What one cycle tells. -/
structure TellsOf (machine : Machine) (random : UInt8) : Prop where
  silent : machine.paused = true ∨ machine.halted = true ∨ machine.fault.isSome = true ∨
    (∃ x, machine.runState = .awaiting x) → (machine.cycle random).log = []
  traced : machine.paused = false → machine.halted = false → machine.fault = none →
    machine.runState = .running → Event.lines .trace (machine.cycle random).log =
      ["TRACE: " ++ (machine.counter.toAddress.text ++ ": " ++ machine.currentInstruction.text)]
  warned : Event.lines .warn (machine.cycle random).log =
    (machine.cycle random).failure.toList.map fun reason => "WARN: " ++
      ("execution stopped at " ++ machine.counter.toAddress.text ++ ": " ++ reason.message)
  /-- The warning comes last and names the place that the trace before it names. -/
  order : ∀ reason, (machine.cycle random).failure = some reason → ∃ between,
    (machine.cycle random).log =
      .executing machine.counter.toAddress machine.currentInstruction ::
        (between ++ [.stopped machine.counter.toAddress reason])
  announced : Event.lines .info (machine.cycle random).log ≠ [] ↔
    ∃ instruction, machine.executed? (.cycle random) = some instruction ∧
      (instruction = .exit ∨ ∃ resolution, instruction = .setResolution resolution)
  infos : ∀ instruction, machine.executed? (.cycle random) = some instruction →
    Event.lines .info (machine.cycle random).log = instruction.announced.map Event.line

theorem cycle_tellsOf (machine : Machine) (random : UInt8) : machine.TellsOf random where
  silent := by
    intro idle
    cases stopped : machine.stopped with
    | true => rw [cycle_of_stopped stopped]
    | false =>
      have moving := stopped
      simp only [Machine.stopped, Bool.or_eq_false_iff] at moving
      rcases idle with paused | halted | faulted | ⟨x, waiting⟩
      · rw [paused] at moving
        cases moving.1.1
      · rw [halted] at moving
        cases moving.1.2
      · rw [faulted] at moving
        cases moving.2
      · rw [cycle_of_awaiting stopped waiting]
  traced moving live clear running := by
    have unstopped : machine.stopped = false := by simp [Machine.stopped, moving, live, clear]
    exact trace_of_executed (executed_of_running unstopped running random)
  warned := machine.warnings_cycle random
  order reason failed := by
    cases executed : machine.executed? (.cycle random) with
    | none =>
      rw [(cycle_of_idle executed).2] at failed
      cases failed
    | some instruction =>
      refine ⟨instruction.announced, ?_⟩
      rw [log_cycle_of_executed executed, failed, (cycle_of_executed executed).1]
      rfl
  announced := machine.announces_cycle_iff random
  infos _ executed := infos_of_executed executed

/-- How the log of a machine stands to what it executes. -/
structure KeepsLog (start : Machine) : Prop where
  cycle : ∀ (bytes : List UInt8) random, (start.run (bytes.map Call.cycle)).TellsOf random
  traces : ∀ calls, (start.runLog calls).filterMap Event.traced? = start.trail calls
  once : ∀ calls, (∀ call ∈ calls, call.resets = false) →
    (Event.lines .warn (start.runLog calls)).length ≤ 1

/-- The log is a faithful record of execution. -/
theorem log_records (start : Machine) : start.KeepsLog where
  cycle bytes random := cycle_tellsOf _ random
  traces := start.traced_run
  once calls kept := by
    have record : (start.fault.toList ++ (start.runLog calls).filterMap Event.warned?).length ≤ 1 := by
      rw [← start.warned_run kept]
      exact Option.length_toList_le
    rw [List.length_append] at record
    rw [Event.length_lines_warn]
    exact Nat.le_trans (Nat.le_add_left _ _) record

end Machine

end Chip8
