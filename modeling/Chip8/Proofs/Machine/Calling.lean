import Chip8.Proofs.Machine.Destination
import Chip8.Proofs.Machine.Failure
import Chip8.Proofs.Machine.Footprint
import Chip8.Proofs.Machine.Reporting

/-! Calls and their returns. The stack keeps where a call stands, and it is the
return that steps past it; whatever happens in between, the frame stays. -/
namespace Chip8.Machine

/-- Only a return takes a frame off the stack. -/
theorem ret_of_popped {machine : Machine} (done : machine.effect random instruction = .ok made)
    (popped : machine.stack = caller :: made.machine.stack) : instruction = .ret := by
  have changed : made.machine.stack ≠ machine.stack := by
    rw [popped]
    exact (List.cons_ne_self _ _).symm
  rcases (footprint_of_effect done).stack changed with ret | ⟨target, call⟩
  · exact ret
  · subst call
    obtain ⟨aligned, _, _, rfl⟩ := made_of_call done
    have lengths := congrArg List.length popped
    simp only [Effect.goTo, List.length_cons] at lengths
    omega

/-- The call takes a frame off the top of the stack and goes on past its caller. -/
structure Returns (machine : Machine) (call : Call) (caller : AlignedAddress)
    (outer : List AlignedAddress) (after : Machine) : Prop where
  executed : machine.executed? call = some .ret
  top : machine.stack = caller :: outer
  popped : after.stack = outer
  past : caller.advance 2 = .ok after.counter

/-- What a call of the host does to the stack, if it does not reset the machine. -/
inductive Turn (machine : Machine) (call : Call) (after : Machine) : Prop where
  | still (kept : after.stack = machine.stack)
  | opened (pushed : after.stack = machine.counter :: machine.stack)
  | closed (returns : machine.Returns call caller outer after)

theorem Turn.record {machine after : Machine} (turn : machine.Turn call after)
    (fault : Option Fault) : machine.Turn call { after with fault } := by
  cases turn with
  | still kept => exact .still kept
  | opened pushed => exact .opened pushed
  | closed returns => exact .closed { returns with }

theorem stack_ofEffect : OfEffect stack where

theorem turn_execute (machine : Machine) (random : UInt8)
    (executed : machine.executed? call = some instruction) :
    machine.Turn call (machine.execute random instruction).machine := by
  rcases stack_ofEffect.execute_cases machine random instruction with kept | ⟨made, done, stack⟩
  · exact .still kept
  · cases course_of_effect done with
    | next kept => exact .still (stack.trans kept.stack)
    | skip => exact .still stack
    | stay => exact .still stack
    | jump => exact .still stack
    | call room => exact .opened stack
    | ret opened past =>
      cases ret_of_popped done opened
      rw [execute_of_moved done rfl]
      exact .closed ⟨executed, opened, rfl, past⟩

theorem turn_cycle (machine : Machine) (random : UInt8) :
    machine.Turn (.cycle random) (machine.cycle random).machine := by
  apply cycle_keeps (machine.Turn (.cycle random))
  · intro keypad registers runState
    exact .still rfl
  · intro executed fault
    exact (machine.turn_execute random executed).record fault

theorem turn_perform (machine : Machine) (kept : call.resets = false) :
    machine.Turn call (machine.perform call).machine := by
  cases call with
  | cycle random => exact machine.turn_cycle random
  | execute random instruction => exact machine.turn_execute random rfl
  | _ => exact .still (machine.perform_sameCourse kept rfl).stack

variable {machine after : Machine} {caller : AlignedAddress} {outer : List AlignedAddress}

/-- A frame stays where it is until it is returned from. -/
theorem Turn.frame (turn : machine.Turn call after) (frame : caller :: outer <:+ machine.stack) :
    caller :: outer <:+ after.stack ∨ machine.Returns call caller outer after := by
  cases turn with
  | still kept => exact .inl (kept ▸ frame)
  | opened pushed =>
    rw [pushed]
    exact .inl (frame.trans (List.suffix_cons _ _))
  | closed returns =>
    rw [returns.top] at frame
    rcases List.suffix_cons_iff.mp frame with whole | below
    · cases whole
      exact .inr returns
    · exact .inl (returns.popped ▸ below)

/-- Nothing follows the last word, so nothing returns to a call that stands there. -/
theorem Returns.counter (returns : machine.Returns call caller outer after) :
    caller.toNat ≠ 0xFFE ∧ after.counter.toNat = caller.toNat + 2 := by
  have inside : caller.toNat ≠ 0xFFE := by
    intro last
    have past := returns.past
    rw [AlignedAddress.advance_two_of_last last] at past
    cases past
  obtain ⟨next, past, reached⟩ := AlignedAddress.advance_two_of_ne inside
  rw [returns.past] at past
  cases past
  exact ⟨inside, reached⟩

variable {calls : List Call}

theorem frame_run (frame : caller :: outer <:+ machine.stack)
    (within : ∀ call ∈ calls, call.resets = false)
    (deeper : caller.toNat = 0xFFE ∨
      ∀ first, first <+: calls → outer.length < (machine.run first).stack.length) :
    caller :: outer <:+ (machine.run calls).stack := by
  apply run_along fun _ reached => caller :: outer <:+ reached.stack
  · exact frame
  · intro first call part kept
    have turn := (machine.run first).turn_perform
      (within call (part.subset (List.mem_append_right first List.mem_cons_self)))
    rcases turn.frame kept with stays | returns
    · exact stays
    · rcases deeper with last | above
      · exact absurd last returns.counter.1
      · have depth := above _ part
        rw [run_append] at depth
        exact absurd (congrArg List.length returns.popped) (Nat.ne_of_gt depth)

/-- A cycle that executes an instruction fails as the instruction does. -/
theorem failure_cycle_of_executed
    (executed : machine.executed? (.cycle random) = some instruction) :
    (machine.cycle random).failure = (machine.execute random instruction).failure := by
  obtain ⟨decoded, stepped⟩ := cycle_of_executed executed
  rw [stepped, failure_step, decoded]

/-- A cycle that changes the stack does not fail. -/
theorem succeeded_of_returns (returns : machine.Returns (.cycle random) caller outer
    (machine.cycle random).machine) : (machine.cycle random).failure = none := by
  cases failed : (machine.cycle random).failure with
  | none => rfl
  | some reason =>
    obtain ⟨_, executed, recorded⟩ := cycle_failure failed
    have kept : (machine.cycle random).machine.stack = machine.stack := by
      rw [recorded]
      exact (leftAsWas_of_failure executed).stack
    rw [returns.popped, returns.top] at kept
    exact absurd kept.symm (List.cons_ne_self _ _)

/-- A call that does not fail leaves a frame for itself on the stack. -/
theorem stack_of_called (executed : machine.executed? (.cycle random) = some (.call target))
    (succeeded : (machine.cycle random).failure = none) :
    (machine.cycle random).machine.stack = machine.counter :: machine.stack := by
  obtain ⟨decoded, stepped⟩ := cycle_of_executed executed
  obtain ⟨fault, same⟩ := machine.step_eq random
  rw [failure_cycle_of_executed executed] at succeeded
  rw [stepped, same, decoded]
  cases done : machine.effect random (.call target) with
  | error reason =>
    rw [execute_of_refusal done] at succeeded
    cases succeeded
  | ok made =>
    refine (stack_ofEffect.execute done).trans ?_
    obtain ⟨aligned, _, _, rfl⟩ := made_of_call done
    rfl

theorem cycle_of_ret (executed : machine.executed? (.cycle random) = some .ret) :
    ∃ fault, (machine.cycle random).machine =
      { (machine.execute random .ret).machine with fault } := by
  obtain ⟨decoded, stepped⟩ := cycle_of_executed executed
  rw [stepped, ← decoded]
  exact machine.step_eq random

theorem returns_of_ret (executed : machine.executed? (.cycle random) = some .ret)
    (top : machine.stack = caller :: outer) (inside : caller.toNat ≠ 0xFFE) :
    machine.Returns (.cycle random) caller outer (machine.cycle random).machine := by
  obtain ⟨target, past, _, done⟩ := effect_ret_of_ne top inside random
  obtain ⟨fault, same⟩ := cycle_of_ret executed
  rw [same, execute_of_moved done rfl]
  exact ⟨executed, top, rfl, past⟩

/-- What a run finds of the call that was made at `start`, however far it came. -/
structure Frames (start reached : Machine) : Prop where
  kept : start.counter :: start.stack <:+ reached.stack
  /-- Only a return brings the stack back to its depth before the call. -/
  left : ∀ random, (reached.cycle random).machine.stack.length ≤ start.stack.length →
    reached.executed? (.cycle random) = some .ret ∧ (reached.cycle random).failure = none ∧
      start.counter.toNat ≠ 0xFFE ∧
      (reached.cycle random).machine.counter.toNat = start.counter.toNat + 2 ∧
      (reached.cycle random).machine.stack = start.stack
  /-- Every return that finds the frame on top brings it back, unless nothing
  follows the call. -/
  returned : start.counter.toNat ≠ 0xFFE → ∀ random,
    reached.executed? (.cycle random) = some .ret →
    reached.stack.length = start.stack.length + 1 →
      (reached.cycle random).machine.stack.length = start.stack.length
  stuck : start.counter.toNat = 0xFFE → ∀ random,
    reached.executed? (.cycle random) = some .ret →
    reached.stack.length = start.stack.length + 1 →
      (reached.cycle random).failure = some (.invalidAddress 0x1000) ∧
      (reached.cycle random).machine.counter = reached.counter ∧
      (reached.cycle random).machine.stack = reached.stack

theorem frames_of_kept {start reached : Machine}
    (kept : start.counter :: start.stack <:+ reached.stack) : start.Frames reached := by
  have top (depth : reached.stack.length = start.stack.length + 1) :
      reached.stack = start.counter :: start.stack := (kept.eq_of_length depth.symm).symm
  refine ⟨kept, ?_, ?_, ?_⟩
  · intro random shallow
    rcases (reached.turn_cycle random).frame kept with stays | returns
    · exact absurd stays.length_le (Nat.not_le.mpr (Nat.lt_succ_of_le shallow))
    · exact ⟨returns.executed, succeeded_of_returns returns, returns.counter.1,
        returns.counter.2, returns.popped⟩
  · intro inside random executed depth
    rw [(returns_of_ret executed (top depth) inside).popped]
  · intro last random executed depth
    have refused := execute_of_refusal (effect_ret_of_last (top depth) last random)
    obtain ⟨fault, same⟩ := cycle_of_ret executed
    rw [failure_cycle_of_executed executed, same, refused]
    exact ⟨rfl, rfl, rfl⟩

/-- How calls nest, on one machine. -/
structure NestsCalls (start : Machine) : Prop where
  depth : start.stack.length ≤ 16
  overflow : ∀ random target, start.executed? (.cycle random) = some (.call target) →
    ((start.cycle random).failure = some .stackOverflow ↔
      start.stack.length = 16 ∧ target.toNat % 2 = 0)
  /-- A call is followed as long as the stack is deeper than before it, which is
  for good if it stands in the last word. -/
  frames : ∀ random target, start.executed? (.cycle random) = some (.call target) →
    (start.cycle random).failure = none → ∀ calls, (∀ call ∈ calls, call.resets = false) →
    (start.counter.toNat = 0xFFE ∨ ∀ first, first <+: calls →
      start.stack.length < ((start.cycle random).machine.run first).stack.length) →
    start.Frames ((start.cycle random).machine.run calls)

/-- A target that is not aligned is reported before a stack that is full. -/
theorem overflow_iff (sound : machine.Sound) (random : UInt8) (target : Address) :
    (machine.execute random (.call target)).failure = some .stackOverflow ↔
      machine.stack.length = 16 ∧ target.toNat % 2 = 0 := by
  rw [Outcome.failure_eq_some_iff, arrival_of_call sound random target]
  by_cases odd : target.toNat % 2 = 1
  · simp [destination, odd]
  · by_cases full : machine.stack.length = 16
    · simp [destination, full, Nat.mod_two_ne_one.mp odd]
    · simp [destination, full, odd]

theorem cycle_call {target : AlignedAddress} (moving : machine.stopped = false)
    (running : machine.runState = .running)
    (fetched : machine.currentInstruction = .call target.toAddress)
    (room : machine.stack.length < stackDepth) (random : UInt8) :
    machine.executed? (.cycle random) = some (.call target.toAddress) ∧
      (machine.cycle random).machine =
        { machine with counter := target, stack := machine.counter :: machine.stack } ∧
      (machine.cycle random).failure = none := by
  apply cycle_of_fetched moving running fetched
  have done : machine.effect random (.call target.toAddress) =
      .ok (.goTo { machine with stack := machine.counter :: machine.stack } target) := by
    rw [Action.settles_call.effect, Address.aligned_of_even target.even]
    exact if_neg (Nat.not_le.mpr room)
  exact execute_of_moved done rfl

/-- Calls nest on every machine that a host can bring about. -/
theorem run_nestsCalls (mode : Mode) (clipsSprites : Bool) (history : List Call) :
    ((initial mode clipsSprites).run history).NestsCalls := by
  have sound := (Sound.initial mode clipsSprites).run history
  generalize (initial mode clipsSprites).run history = start at sound
  refine ⟨sound.depth, ?_, ?_⟩
  · intro random target executed
    rw [failure_cycle_of_executed executed]
    exact overflow_iff sound random target
  · intro random target executed succeeded calls within deeper
    have opened : start.counter :: start.stack <:+ (start.cycle random).machine.stack :=
      stack_of_called executed succeeded ▸ List.suffix_refl _
    exact frames_of_kept (frame_run opened within deeper)

/-- A subroutine that does nothing but return is returned from. -/
theorem empty_subroutine_returns :
    let start := (initial .standard false).run [.load [0x22, 0x04, 0x12, 0x02, 0x00, 0xEE]]
    let reached := (start.cycle 0).machine.run [.tick, .press 3]
    start.executed? (.cycle 0) = some (.call ⟨0x204, by decide⟩) ∧
      (start.cycle 0).failure = none ∧ start.Frames reached ∧
      reached.executed? (.cycle 0) = some .ret ∧
      (reached.cycle 0).machine.counter.toNat = 0x202 ∧ (reached.cycle 0).machine.stack = [] := by
  intro start reached
  let program : Program := ⟨[0x22, 0x04, 0x12, 0x02, 0x00, 0xEE], by decide⟩
  have nests : start.NestsCalls := run_nestsCalls .standard false _
  have loaded : start = (initial .standard false).install program := run_load _ program []
  obtain ⟨memory, mode, moving, running, counter, stack⟩ :
      start.memory = .withProgram program ∧ start.mode = .standard ∧ start.stopped = false ∧
        start.runState = .running ∧ start.counter.toNat = programStart + 0 ∧ start.stack = [] := by
    rw [loaded]
    exact ⟨rfl, rfl, rfl, rfl, rfl, rfl⟩
  clear_value start
  let entry : AlignedAddress := ⟨⟨0x204, by decide⟩, by decide⟩
  let called : Machine := { start with counter := entry, stack := start.counter :: start.stack }
  have first : start.currentInstruction = .call entry.toAddress := by
    have fetched : start.currentOpcode = .ofBytes 0x22 0x04 :=
      currentOpcode_of_program memory counter (by decide)
    rw [currentInstruction, fetched, mode]
    rfl
  obtain ⟨executed, same, succeeded⟩ := cycle_call moving running first (by rw [stack]; decide) 0
  have inside : reached = { called.tick with keypad := called.tick.keypad.press 3 } := by
    change ((start.cycle 0).machine.perform .tick).machine.run [.press 3] = _
    rw [same]
    exact congrArg Reply.machine (called.tick.perform_key_of_ok .press rfl)
  have frames : start.Frames reached := by
    refine nests.frames 0 _ executed succeeded _ (by decide) (.inr ?_)
    intro first part
    rw [same]
    have deeper : start.stack.length < called.stack.length := Nat.lt_succ_self _
    rcases List.prefix_cons_iff.mp part with rfl | ⟨rest, rfl, next⟩
    · exact deeper
    · rcases List.prefix_cons_iff.mp next with rfl | ⟨last, rfl, done⟩
      · exact deeper
      · cases List.prefix_nil.mp done
        exact deeper
  obtain ⟨memory, mode, moving, running, place, top⟩ :
      reached.memory = .withProgram program ∧ reached.mode = .standard ∧ reached.stopped = false ∧
        reached.runState = .running ∧ reached.counter.toNat = programStart + 4 ∧
        reached.stack = start.counter :: start.stack := by
    rw [inside]
    exact ⟨memory, mode, moving, running, rfl, rfl⟩
  have last : reached.currentInstruction = .ret := by
    have fetched : reached.currentOpcode = .ofBytes 0x00 0xEE :=
      currentOpcode_of_program memory place (by decide)
    rw [currentInstruction, fetched, mode]
    rfl
  have returns : reached.executed? (.cycle 0) = some .ret :=
    (executed_of_running moving running 0).trans (congrArg some last)
  have depth : (reached.cycle 0).machine.stack.length = start.stack.length := by
    apply frames.returned _ 0 returns (congrArg List.length top)
    rw [counter]
    decide
  obtain ⟨_, _, _, past, popped⟩ := frames.left 0 (Nat.le_of_eq depth)
  exact ⟨executed, succeeded, frames, returns, past.trans (congrArg (· + 2) counter),
    popped.trans stack⟩

end Chip8.Machine
