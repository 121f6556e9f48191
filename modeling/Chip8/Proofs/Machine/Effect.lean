import Chip8.Machine.Execute
import Chip8.Proofs.General

/-! Instructions as wholes. Each is checked before it changes anything, so either it has its
effect or it leaves the machine as it was. For the instructions that can be refused it is said
here what they check, and what they have come to when they are not refused. -/
namespace Chip8

/-- What an instruction has made of a machine when the program counter is to move. -/
structure Effect where
  machine : Machine
  flow : Flow
  log : List Event

namespace Effect

def next (machine : Machine) : Effect := ⟨machine, .next, []⟩

def goTo (machine : Machine) (target : AlignedAddress) : Effect := ⟨machine, .goTo target, []⟩

end Effect

/-- The effect of an instruction, or the fault that it is refused with. -/
def Machine.effect (machine : Machine) (random : UInt8) (instruction : Instruction) :
    Except Fault Effect :=
  match (instruction.work random).run ⟨machine, []⟩ with
  | .ok flow after => .ok ⟨after.machine, flow, after.log⟩
  | .error fault _ => .error fault

/-- All or nothing: the effect is had as a whole, or the fault comes before any change. -/
def Action.Settles (action : Action Flow) (machine : Machine) (effect : Except Fault Effect) : Prop :=
  action.run ⟨machine, []⟩ =
    match effect with
    | .ok made => .ok made.flow ⟨made.machine, made.log⟩
    | .error fault => .error fault ⟨machine, []⟩

namespace Action

variable {machine : Machine} {random : UInt8} {instruction : Instruction}

theorem Settles.effect {made : Except Fault Effect}
    (settles : (instruction.work random).Settles machine made) :
    machine.effect random instruction = made := by
  unfold Machine.effect
  rw [settles]
  cases made with
  | error fault => rfl
  | ok made => rfl

theorem Settles.work {made : Except Fault Effect}
    (settles : (instruction.work random).Settles machine made) :
    (instruction.work random).Settles machine (machine.effect random instruction) := by
  rw [settles.effect]
  exact settles

theorem settles_machine {next : Machine → Action Flow}
    (settles : (next machine).Settles machine effect) :
    (Action.machine >>= next).Settles machine effect := settles

/-- A check that comes before all changes leaves nothing behind when it fails. -/
theorem settles_check {answer : Except Fault α} {next : α → Action Flow}
    {effect : α → Except Fault Effect} (settles : ∀ value, (next value).Settles machine (effect value)) :
    (check answer >>= next).Settles machine (answer >>= effect) := by
  cases answer with
  | error fault => rfl
  | ok value => exact settles value

theorem settles_ret : (Instruction.ret.work random).Settles machine
    (match machine.stack with
    | [] => .error .stackUnderflow
    | caller :: outer => do
      return .goTo { machine with stack := outer } (← caller.advance 2)) := by
  apply settles_machine
  cases machine.stack with
  | nil => rfl
  | cons caller outer => exact settles_check fun _ => rfl

theorem settles_jump : ((Instruction.jump address).work random).Settles machine (do
    return .goTo machine (← address.aligned)) :=
  settles_check fun _ => rfl

theorem settles_call : ((Instruction.call address).work random).Settles machine (do
    let target ← address.aligned
    if stackDepth ≤ machine.stack.length then .error .stackOverflow
    else .ok (.goTo { machine with stack := machine.counter :: machine.stack } target)) := by
  refine settles_check fun target => settles_machine ?_
  split
  · rfl
  · rfl

theorem settles_jumpOffset : ((Instruction.jumpOffset x address).work random).Settles machine (do
    let named := if machine.dialect.jumpsByNamed then x else Register.first
    return .goTo machine (← (← address.advance (machine.register named)).aligned)) :=
  settles_machine (settles_check fun _ => settles_check fun _ => rfl)

theorem settles_draw : ((Instruction.draw x y rows).work random).Settles machine (do
    let bytes ← machine.memory.slice machine.index.toUInt64 rows.toUInt64
    return .next (machine.drawSprite (.ofBytes bytes) (machine.placement x y))) :=
  settles_machine (settles_check fun _ => rfl)

theorem settles_drawBig : ((Instruction.drawBig x y).work random).Settles machine (do
    let bytes ← machine.memory.slice machine.index.toUInt64 bigSpriteSize
    return .next (machine.drawSprite (.bigOfBytes bytes) (machine.placement x y))) :=
  settles_machine (settles_check fun _ => rfl)

theorem settles_storeDigits : ((Instruction.storeDigits x).work random).Settles machine (do
    let digits := decimalDigits (machine.register x)
    let memory ← machine.memory.writeSlice machine.index.toUInt64 digits
    return .next { machine with memory }) :=
  settles_machine (settles_check fun _ => rfl)

theorem settles_storeRegisters : ((Instruction.storeRegisters last).work random).Settles machine (do
    let bytes := machine.registersThrough last
    let memory ← machine.memory.writeSlice machine.index.toUInt64 bytes
    return .next ({ machine with memory }.advanceIndex (last.val + 1))) :=
  settles_machine (settles_check fun _ => rfl)

theorem settles_loadRegisters : ((Instruction.loadRegisters last).work random).Settles machine (do
    let length := last.val + 1
    let bytes ← machine.memory.slice machine.index.toUInt64 (UInt64.ofNat length)
    let registers := Cells.overlay machine.registers 0 bytes
    return .next ({ machine with registers }.advanceIndex length)) :=
  settles_machine (settles_check fun _ => rfl)

/-- No instruction is refused in the middle of its work. -/
theorem settles_work (machine : Machine) (random : UInt8) (instruction : Instruction) :
    (instruction.work random).Settles machine (machine.effect random instruction) := by
  cases instruction with
  | ret => exact settles_ret.work
  | jump address => exact settles_jump.work
  | call address => exact settles_call.work
  | jumpOffset x address => exact settles_jumpOffset.work
  | draw x y rows => exact settles_draw.work
  | drawBig x y => exact settles_drawBig.work
  | storeDigits x => exact settles_storeDigits.work
  | storeRegisters last => exact settles_storeRegisters.work
  | loadRegisters last => exact settles_loadRegisters.work
  | _ => rfl

end Action

namespace Machine

variable {machine : Machine} {made : Effect}

theorem run_work_of_error (refused : machine.effect random instruction = .error reason) :
    (instruction.work random).run ⟨machine, []⟩ = .error reason ⟨machine, []⟩ := by
  have settles := Action.settles_work machine random instruction
  rw [refused] at settles
  exact settles

theorem run_work_of_ok (done : machine.effect random instruction = .ok made) :
    (instruction.work random).run ⟨machine, []⟩ = .ok made.flow ⟨made.machine, made.log⟩ := by
  have settles := Action.settles_work machine random instruction
  rw [done] at settles
  exact settles

theorem effect_skip : machine.effect random (.skip condition) =
    .ok ⟨machine, if machine.holds condition then .skip else .next, []⟩ := rfl

theorem made_of_ret (done : machine.effect random .ret = .ok made) :
    ∃ caller outer target, machine.stack = caller :: outer ∧ caller.advance 2 = .ok target ∧
      made = .goTo { machine with stack := outer } target := by
  rw [Action.settles_ret.effect] at done
  cases opened : machine.stack with
  | nil =>
    rw [opened] at done
    cases done
  | cons caller outer =>
    rw [opened] at done
    obtain ⟨target, past, same⟩ := Except.bind_return done
    exact ⟨caller, outer, target, rfl, past, same⟩

theorem made_of_jump (done : machine.effect random (.jump address) = .ok made) :
    ∃ target, address.aligned = .ok target ∧ made = .goTo machine target :=
  Except.bind_return (Action.settles_jump.effect ▸ done)

theorem made_of_call (done : machine.effect random (.call address) = .ok made) :
    ∃ target, address.aligned = .ok target ∧ machine.stack.length < stackDepth ∧
      made = .goTo { machine with stack := machine.counter :: machine.stack } target := by
  rw [Action.settles_call.effect] at done
  obtain ⟨target, aligned, checked⟩ := Except.bind_ok done
  split at checked
  · cases checked
  · rename_i full
    cases checked
    exact ⟨target, aligned, Nat.not_le.mp full, rfl⟩

theorem made_of_jumpOffset (done : machine.effect random (.jumpOffset x address) = .ok made) :
    ∃ target, made = .goTo machine target := by
  rw [Action.settles_jumpOffset.effect] at done
  obtain ⟨sum, _, checked⟩ := Except.bind_ok done
  obtain ⟨target, _, same⟩ := Except.bind_return checked
  exact ⟨target, same⟩

theorem made_of_draw (done : machine.effect random (.draw x y rows) = .ok made) :
    ∃ bytes, machine.memory.slice machine.index.toUInt64 rows.toUInt64 = .ok bytes ∧
      made = .next (machine.drawSprite (.ofBytes bytes) (machine.placement x y)) :=
  Except.bind_return (Action.settles_draw.effect ▸ done)

theorem made_of_drawBig (done : machine.effect random (.drawBig x y) = .ok made) :
    ∃ bytes, machine.memory.slice machine.index.toUInt64 bigSpriteSize = .ok bytes ∧
      made = .next (machine.drawSprite (.bigOfBytes bytes) (machine.placement x y)) :=
  Except.bind_return (Action.settles_drawBig.effect ▸ done)

theorem made_of_storeDigits (done : machine.effect random (.storeDigits x) = .ok made) :
    ∃ memory, machine.memory.writeSlice machine.index.toUInt64
        (decimalDigits (machine.register x)) = .ok memory ∧
      made = .next { machine with memory } :=
  Except.bind_return (Action.settles_storeDigits.effect ▸ done)

theorem made_of_storeRegisters (done : machine.effect random (.storeRegisters last) = .ok made) :
    ∃ memory, machine.memory.writeSlice machine.index.toUInt64
        (machine.registersThrough last) = .ok memory ∧
      made = .next ({ machine with memory }.advanceIndex (last.val + 1)) :=
  Except.bind_return (Action.settles_storeRegisters.effect ▸ done)

theorem made_of_loadRegisters (done : machine.effect random (.loadRegisters last) = .ok made) :
    ∃ bytes, machine.memory.slice machine.index.toUInt64 (UInt64.ofNat (last.val + 1)) = .ok bytes ∧
      made = .next ({ machine with
        registers := Cells.overlay machine.registers 0 bytes }.advanceIndex (last.val + 1)) :=
  Except.bind_return (Action.settles_loadRegisters.effect ▸ done)

end Machine

end Chip8
