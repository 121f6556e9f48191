import Chip8.Proofs.Address
import Chip8.Proofs.Instruction.Extension
import Chip8.Proofs.Machine.Independence
import Chip8.Proofs.Machine.Reporting

/-! Extended mode adds to standard mode and changes nothing in it. A run that meets
none of the added opcodes is the same in both modes. -/
namespace Chip8

/-- The calls that take up the mode or switch it, besides executing anything. -/
def Call.concernsMode : Call → Bool
  | load _ => true
  | loadFrom _ => true
  | reload => true
  | setMode _ => true
  | _ => false

namespace Machine

def inMode (machine : Machine) (mode : Mode) : Machine := { machine with mode }

end Machine

def Outcome.inMode (outcome : Outcome) (mode : Mode) : Outcome :=
  { outcome with machine := outcome.machine.inMode mode }

def Reply.inMode (reply : Reply) (mode : Mode) : Reply :=
  { reply with machine := reply.machine.inMode mode }

namespace Machine

variable (machine : Machine) (mode : Mode)

theorem execute_inMode (random : UInt8) (instruction : Instruction) :
    (machine.inMode mode).execute random instruction =
      (machine.execute random instruction).inMode mode :=
  machine.execute_shift { mode := fun _ => mode } random rfl (.inl rfl)

/-- The mode matters to a cycle only for what the opcode means. -/
theorem cycle_inMode (random : UInt8)
    (agrees : machine.executed? (.cycle random) ≠ none →
      machine.currentOpcode.decode mode = machine.currentInstruction) :
    (machine.inMode mode).cycle random = (machine.cycle random).inMode mode := by
  apply machine.cycle_shift { mode := fun _ => mode } random rfl
  intro moving running
  have executed := executed_of_running moving running random
  exact ⟨agrees (executed ▸ Option.some_ne_none _), .inl rfl⟩

theorem key_inMode (move : KeyMove) (code : UInt8) :
    (machine.inMode mode).perform (move.call code) =
      (machine.perform (move.call code)).inMode mode := by
  cases named : Key.ofCode code with
  | error reason =>
    rw [perform_key_of_error _ move named, perform_key_of_error _ move named]
    rfl
  | ok key =>
    rw [perform_key_of_ok _ move named, perform_key_of_ok _ move named]
    rfl

/-- Only what a cycle executes depends on the mode. -/
theorem perform_inMode (apart : call.concernsMode = false)
    (agrees : ∀ random, call = .cycle random → machine.executed? call ≠ none →
      machine.currentOpcode.decode mode = machine.currentInstruction) :
    (machine.inMode mode).perform call = (machine.perform call).inMode mode := by
  cases call with
  | load bytes => cases apart
  | loadFrom source => cases apart
  | reload => cases apart
  | setMode other => cases apart
  | cycle random =>
    exact congrArg Reply.ofOutcome (machine.cycle_inMode mode random (agrees random rfl))
  | execute random instruction =>
    exact congrArg Reply.ofOutcome (machine.execute_inMode mode random instruction)
  | press code => exact machine.key_inMode mode .press code
  | release code => exact machine.key_inMode mode .release code
  | _ => rfl

theorem mode_perform (apart : call.concernsMode = false) :
    (machine.perform call).machine.mode = machine.mode := by
  have same := machine.perform_inMode machine.mode apart fun _ _ _ => rfl
  exact congrArg (fun reply => reply.machine.mode) same

theorem mode_run (within : ∀ call ∈ calls, Call.concernsMode call = false) :
    (machine.run calls).mode = machine.mode := by
  apply run_keeps (fun reached => reached.mode = machine.mode) rfl
  intro call member reached kept
  exact (reached.mode_perform (within call member)).trans kept

/-- A run fetches no opcode of the extension. -/
def Unextended (start : Machine) (calls : List Call) : Prop :=
  ∀ first random, first ++ [.cycle random] <+: calls →
    (start.run first).executed? (.cycle random) ≠ none →
      ¬ (start.run first).currentOpcode.IsExtension

/-- Two machines on which the same calls have the same answers and the same
effects, but for the mode that the second one is in. -/
structure InStep (first second : Machine) (calls : List Call) : Prop where
  machines : ∀ part, part <+: calls → second.run part = (first.run part).inMode second.mode
  replies : ∀ part call, part ++ [call] <+: calls →
    (second.run part).perform call = ((first.run part).perform call).inMode second.mode

variable {standard : Machine} {calls : List Call}

theorem perform_run_inMode (plain : standard.mode = .standard)
    (within : ∀ call ∈ calls, call.concernsMode = false) (unextended : standard.Unextended calls)
    (part : first ++ [call] <+: calls) :
    ((standard.run first).inMode .extended).perform call =
      ((standard.run first).perform call).inMode .extended := by
  have apart : ∀ other ∈ first ++ [call], other.concernsMode = false :=
    fun other member => within other (part.subset member)
  apply perform_inMode _ .extended (apart call (List.mem_append_right first List.mem_cons_self))
  intro random cycle executed
  subst cycle
  have mode : (standard.run first).mode = .standard :=
    (standard.mode_run fun other member => apart other (List.mem_append_left _ member)).trans plain
  rw [currentInstruction, mode]
  exact Opcode.decode_of_plain (unextended first random part executed)

theorem run_inMode (plain : standard.mode = .standard)
    (within : ∀ call ∈ calls, call.concernsMode = false) (unextended : standard.Unextended calls) :
    (standard.inMode .extended).run calls = (standard.run calls).inMode .extended := by
  apply run_along fun first reached =>
    (standard.inMode .extended).run first = reached.inMode .extended
  · rfl
  · intro first call part reached
    rw [run_append, reached]
    exact congrArg Reply.machine (perform_run_inMode plain within unextended part)

/-- Extended mode is conservative: whatever runs in standard mode without an
opcode of the extension runs the same way in extended mode. -/
theorem run_inStep {extended : Machine} (plain : standard.mode = .standard)
    (same : extended = standard.inMode .extended)
    (within : ∀ call ∈ calls, call.concernsMode = false)
    (unextended : standard.Unextended calls) : standard.InStep extended calls := by
  subst same
  have machines : ∀ part, part <+: calls →
      (standard.inMode .extended).run part = (standard.run part).inMode .extended := by
    intro part whole
    apply run_inMode plain fun call member => within call (whole.subset member)
    intro first random further
    exact unextended first random (further.trans whole)
  refine ⟨machines, ?_⟩
  intro part call whole
  rw [machines part ((List.prefix_append part [call]).trans whole)]
  exact perform_run_inMode plain within unextended whole

/-- Extended mode loads a register as standard mode does, once it has taken over
the dialect and the screen of standard mode. A paused machine fetches nothing. -/
theorem loading_program_inStep :
    let standard := (initial .standard false).run [.load [0x60, 0x05], .setMode .standard]
    let extended := (initial .standard false).run [.load [0x60, 0x05], .setMode .extended,
      .setDialect (.ofMode .standard false), .screen (.setResolution .low)]
    let calls := [.cycle 0, .tick, .togglePause, .cycle 0]
    standard.InStep extended calls ∧ (extended.run calls).register 0 = 5 := by
  intro standard extended calls
  let program : Program := ⟨[0x60, 0x05], by decide⟩
  let installed : Machine := (initial .standard false).install program
  have first : standard = installed.run [.setMode .standard] := run_load _ program _
  have second : extended = installed.run [.setMode .extended,
      .setDialect (.ofMode .standard false), .screen (.setResolution .low)] := run_load _ program _
  have same : extended = standard.inMode .extended := by
    rw [first, second]
    rfl
  obtain ⟨memory, plain, unpaused, moving, running, counter⟩ :
      standard.memory = .withProgram program ∧ standard.mode = .standard ∧
        standard.paused = false ∧ standard.stopped = false ∧ standard.runState = .running ∧
        standard.counter.toNat = programStart + 0 := by
    rw [first]
    exact ⟨rfl, rfl, rfl, rfl, rfl, rfl⟩
  clear_value standard extended
  have fetched : standard.currentOpcode = .ofBytes 0x60 0x05 :=
    currentOpcode_of_program memory counter (by decide)
  have decoded : standard.currentInstruction = .loadByte 0 5 := by
    rw [currentInstruction, fetched, plain]
    rfl
  let next : AlignedAddress := ⟨⟨0x202, by decide⟩, by decide⟩
  have past : Flow.next.target standard.counter = .ok next :=
    AlignedAddress.advance_two_of_eq (congrArg (· + 2) counter.symm)
  have done : standard.effect 0 (.loadByte 0 5) = .ok (.next (standard.setRegister 0 5)) := rfl
  let loaded : Machine := { standard.setRegister 0 5 with counter := next }
  have reached : (standard.cycle 0).machine = loaded :=
    (cycle_of_fetched moving running decoded (execute_of_moved done past)).2.1
  have stopped : loaded.tick.togglePause.stopped = true := by
    simp [loaded, Machine.stopped, togglePause, tick, setRegister, unpaused]
  have idle : standard.run [.cycle 0, .tick, .togglePause] = loaded.tick.togglePause := by
    simp only [run, List.foldl, perform, Reply.ofOutcome, Reply.done, Reply.quiet, reached]
  have inStep : standard.InStep extended calls := by
    apply run_inStep plain same (by decide)
    intro first random part executed
    have places : first = [] ∨ first = [.cycle 0, .tick, .togglePause] := by
      simp only [calls, List.concat_prefix_cons, List.prefix_nil, List.append_eq_nil_iff, reduceCtorEq,
        and_false, exists_false, or_false, false_or] at part
      obtain ⟨rfl, _⟩ | ⟨_, rfl, _, rfl, _, rfl, rfl, _⟩ := part
      · exact .inl rfl
      · exact .inr rfl
    rcases places with rfl | rfl
    · rw [show (standard.run []).currentOpcode = _ from fetched]
      decide
    · rw [idle] at executed
      exact absurd (if_pos stopped) executed
  have same : standard.run calls = loaded.tick.togglePause := by
    rw [show calls = [.cycle 0, .tick, .togglePause] ++ [.cycle 0] from rfl, run_append, idle]
    simp only [run, List.foldl, perform, Reply.ofOutcome, cycle_of_stopped stopped]
  refine ⟨inStep, ?_⟩
  rw [inStep.machines calls (List.prefix_refl calls), same]
  exact (register_setRegister standard 0 0 5).trans (if_pos rfl)

end Machine

end Chip8
