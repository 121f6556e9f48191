import Chip8.Proofs.Machine.Run

/-! What instructions do not look at: where they stand, unless they are calls, in which
mode the machine is, and the timers, which a few instructions are there for. They work
beside a change of any of these. -/
namespace Chip8

/-- The instruction reads or sets a timer. -/
def Instruction.isTimed : Instruction → Bool
  | readDelay _ => true
  | setDelay _ => true
  | setSound _ => true
  | _ => false

/-- A change of the counter, of the mode and of the timers, and of nothing else. -/
structure Shift where
  counter : AlignedAddress → AlignedAddress := id
  mode : Mode → Mode := id
  timers : Timers → Timers := id

namespace Machine

def shift (change : Shift) (machine : Machine) : Machine :=
  { machine with
    counter := change.counter machine.counter
    mode := change.mode machine.mode
    timers := change.timers machine.timers }

end Machine

def Effect.shift (change : Shift) (effect : Effect) : Effect :=
  { effect with machine := effect.machine.shift change }

namespace Machine

variable (machine : Machine) (change : Shift)

theorem setResult_shift (x : Register) (result : UInt8 × Option UInt8) :
    (machine.shift change).setResult x result = (machine.setResult x result).shift change := by
  obtain ⟨value, flag⟩ := result
  cases flag with
  | none => rfl
  | some flag => rfl

theorem advanceIndex_shift (length : Nat) :
    (machine.shift change).advanceIndex length = (machine.advanceIndex length).shift change := by
  have same : (machine.shift change).dialect = machine.dialect := rfl
  unfold advanceIndex
  rw [same]
  split
  · rfl
  · rfl

theorem effect_ret_shift (random : UInt8) :
    (machine.shift change).effect random .ret =
      (machine.effect random .ret).map (·.shift change) := by
  have same : (machine.shift change).stack = machine.stack := rfl
  rw [Action.settles_ret.effect, Action.settles_ret.effect, same]
  cases machine.stack with
  | nil => rfl
  | cons caller outer => exact Except.bind_map fun target => rfl

theorem effect_call_shift (random : UInt8) (address : Address)
    (standing : change.counter machine.counter = machine.counter) :
    (machine.shift change).effect random (.call address) =
      (machine.effect random (.call address)).map (·.shift change) := by
  rw [Action.settles_call.effect, Action.settles_call.effect]
  refine Except.bind_map fun target => ?_
  have same : (machine.shift change).stack = machine.stack := rfl
  rw [same]
  split
  · rfl
  · simp only [Except.map, Effect.shift, Effect.goTo, shift, standing]

theorem next_shift {after other : Machine} (same : other = after.shift change) :
    (.ok (.next other) : Except Fault Effect) =
      (Except.ok (Effect.next after)).map (·.shift change) := by
  subst same
  rfl

theorem effect_shift_of_timed (random : UInt8) (timeless : change.timers = id)
    (timed : instruction.isTimed = true) :
    (machine.shift change).effect random instruction =
      (machine.effect random instruction).map (·.shift change) := by
  obtain ⟨counter, mode, timers⟩ := change
  subst timeless
  cases instruction with
  | readDelay x => rfl
  | setDelay x => rfl
  | setSound x => rfl
  | _ => cases timed

/-- Of all instructions a call alone looks at where it stands, none at the mode, and
only those for the timers at these. -/
theorem effect_shift (random : UInt8)
    (unseen : (∀ target, instruction ≠ .call target) ∨
      change.counter machine.counter = machine.counter)
    (untimed : change.timers = id ∨ instruction.isTimed = false) :
    (machine.shift change).effect random instruction =
      (machine.effect random instruction).map (·.shift change) := by
  cases instruction with
  | readDelay x => exact machine.effect_shift_of_timed change random (untimed.resolve_right nofun) rfl
  | setDelay x => exact machine.effect_shift_of_timed change random (untimed.resolve_right nofun) rfl
  | setSound x => exact machine.effect_shift_of_timed change random (untimed.resolve_right nofun) rfl
  | ret => exact machine.effect_ret_shift change random
  | jump address =>
    rw [Action.settles_jump.effect, Action.settles_jump.effect]
    exact Except.bind_map fun target => rfl
  | call target =>
    rcases unseen with elsewhere | standing
    · exact absurd rfl (elsewhere target)
    · exact machine.effect_call_shift change random target standing
  | jumpOffset x address =>
    rw [Action.settles_jumpOffset.effect, Action.settles_jumpOffset.effect]
    exact Except.bind_map fun sum => Except.bind_map fun target => rfl
  | arithmetic operation x y => exact next_shift change (machine.setResult_shift change x _)
  | draw x y rows =>
    rw [Action.settles_draw.effect, Action.settles_draw.effect]
    exact Except.bind_map fun bytes => rfl
  | drawBig x y =>
    rw [Action.settles_drawBig.effect, Action.settles_drawBig.effect]
    exact Except.bind_map fun bytes => rfl
  | storeDigits x =>
    rw [Action.settles_storeDigits.effect, Action.settles_storeDigits.effect]
    exact Except.bind_map fun memory => rfl
  | storeRegisters last =>
    rw [Action.settles_storeRegisters.effect, Action.settles_storeRegisters.effect]
    exact Except.bind_map fun memory =>
      next_shift change (advanceIndex_shift { machine with memory } change _)
  | loadRegisters last =>
    rw [Action.settles_loadRegisters.effect, Action.settles_loadRegisters.effect]
    refine Except.bind_map fun bytes => ?_
    let registers := Cells.overlay machine.registers 0 bytes
    exact next_shift change (advanceIndex_shift { machine with registers } change _)
  | _ => rfl

end Machine

def Outcome.shift (change : Shift) (outcome : Outcome) : Outcome :=
  { outcome with machine := outcome.machine.shift change }

namespace Machine

variable (machine : Machine) (change : Shift)

/-- Where an instruction stands does not change, so it goes on at the same place. -/
theorem execute_shift (random : UInt8) (standing : change.counter = id)
    (untimed : change.timers = id ∨ instruction.isTimed = false) :
    (machine.shift change).execute random instruction =
      (machine.execute random instruction).shift change := by
  have beside : (machine.shift change).effect random instruction =
      (machine.effect random instruction).map (·.shift change) :=
    machine.effect_shift change random (.inr (congrFun standing _)) untimed
  obtain ⟨counter, mode, timers⟩ := change
  subst standing
  cases done : machine.effect random instruction with
  | error reason =>
    rw [done] at beside
    rw [execute_of_refusal done, execute_of_refusal beside]
    rfl
  | ok made =>
    rw [done] at beside
    cases moved : made.flow.target machine.counter with
    | error reason =>
      rw [execute_of_blocked done moved, execute_of_blocked beside moved]
      rfl
    | ok target =>
      rw [execute_of_moved done moved, execute_of_moved beside moved]
      rfl

theorem deliverKey_shift (x : Register) :
    (machine.shift change).deliverKey x = (machine.deliverKey x).shift change := by
  have same : (machine.shift change).keypad = machine.keypad := rfl
  unfold deliverKey
  rw [same]
  split
  · rfl
  · rfl

/-- The mode matters to a step for what the opcode means. -/
theorem step_shift (random : UInt8) (standing : change.counter = id)
    (agrees : (machine.shift change).currentInstruction = machine.currentInstruction)
    (untimed : change.timers = id ∨ machine.currentInstruction.isTimed = false) :
    (machine.shift change).step random = (machine.step random).shift change := by
  have executed := machine.execute_shift change random standing untimed
  obtain ⟨counter, mode, timers⟩ := change
  subst standing
  simp only [step, agrees, executed]
  cases failed : (machine.execute random machine.currentInstruction).failure with
  | none => simp only [Outcome.shift, failed]; rfl
  | some reason => simp only [Outcome.shift, failed]; rfl

/-- A cycle works beside a change of the mode or of the timers, if what it executes is
the same instruction and not one for the timers that change. -/
theorem cycle_shift (random : UInt8) (standing : change.counter = id)
    (beside : machine.stopped = false → machine.runState = .running →
      (machine.shift change).currentInstruction = machine.currentInstruction ∧
        (change.timers = id ∨ machine.currentInstruction.isTimed = false)) :
    (machine.shift change).cycle random = (machine.cycle random).shift change := by
  cases stopped : machine.stopped with
  | true =>
    have still : (machine.shift change).stopped = true := stopped
    rw [cycle_of_stopped stopped, cycle_of_stopped still]
    rfl
  | false =>
    have moving : (machine.shift change).stopped = false := stopped
    cases state : machine.runState with
    | awaiting x =>
      have waiting : (machine.shift change).runState = .awaiting x := state
      rw [cycle_of_awaiting stopped state, cycle_of_awaiting moving waiting, deliverKey_shift]
      rfl
    | running =>
      have running : (machine.shift change).runState = .running := state
      obtain ⟨agrees, untimed⟩ := beside stopped state
      rw [cycle_of_running stopped state, cycle_of_running moving running]
      exact machine.step_shift change random standing agrees untimed

end Machine

end Chip8
