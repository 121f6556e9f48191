import Chip8.Proofs.Address
import Chip8.Proofs.Machine.Independence
import Chip8.Proofs.Machine.Run

/-! A failed instruction leaves the machine as it was. The one exception is the
last word of memory: what stands there has its effect and fails afterwards, when
the counter cannot move on. -/
namespace Chip8

namespace Machine

def movedTo (machine : Machine) (counter : AlignedAddress) : Machine := { machine with counter }

end Machine

def Effect.movedTo (effect : Effect) (counter : AlignedAddress) : Effect :=
  { effect with machine := effect.machine.movedTo counter }

namespace Machine

/-- No instruction but a call looks at where it stands. -/
theorem effect_movedTo (machine : Machine) (counter : AlignedAddress) (random : UInt8)
    (elsewhere : ∀ target, instruction ≠ .call target) :
    (machine.movedTo counter).effect random instruction =
      (machine.effect random instruction).map (·.movedTo counter) :=
  machine.effect_shift { counter := fun _ => counter } random (.inl elsewhere) (.inl rfl)

/-- A call never goes on to the next instruction. -/
theorem not_call_of_next {machine : Machine}
    (done : machine.effect random instruction = .ok ⟨after, .next, log⟩) :
    ∀ target, instruction ≠ .call target := by
  intro target same
  subst same
  obtain ⟨aligned, _, _, same⟩ := made_of_call done
  cases same

/-- Below the last word whatever falls through goes on to the next instruction,
wherever it stands. -/
theorem execute_movedTo {machine : Machine} {lower : AlignedAddress} (below : lower.toNat < 0xFFE)
    (done : machine.effect random instruction = .ok ⟨after, .next, log⟩) :
    ∃ counter, counter.toNat = lower.toNat + 2 ∧
      (machine.movedTo lower).execute random instruction = ⟨after.movedTo counter, none, log⟩ := by
  obtain ⟨counter, past, next⟩ := AlignedAddress.advance_two_of_ne (Nat.ne_of_lt below)
  have there := effect_movedTo machine lower random (not_call_of_next done)
  rw [done] at there
  exact ⟨counter, next, execute_of_moved there past⟩

/-- What a failed instruction leaves behind. -/
structure LeftAsWas (machine : Machine) (random : UInt8) (instruction : Instruction)
    (reason : Fault) (after : Machine) : Prop where
  counter : after.counter = machine.counter
  stack : after.stack = machine.stack
  inside : machine.counter.toNat ≠ 0xFFE → after = machine
  /-- What fails in the last word only for having no next instruction has done
  all that it does anywhere below. -/
  last : machine.counter.toNat = 0xFFE → after = machine ∨
    reason = .invalidAddress 0x1000 ∧ ∀ lower : AlignedAddress, lower.toNat < 0xFFE →
      ∃ there, (machine.movedTo lower).execute random instruction = there ∧
        there.failure = none ∧ there.machine.counter.toNat = lower.toNat + 2 ∧
        after = there.machine.movedTo machine.counter

theorem LeftAsWas.refl : LeftAsWas machine random instruction reason machine where
  counter := rfl
  stack := rfl
  inside _ := rfl
  last _ := .inl rfl

/-- The counter cannot move on only from the last word. -/
theorem counter_of_blocked {counter : AlignedAddress}
    (blocked : counter.advance 2 = .error reason) :
    counter.toNat = 0xFFE ∧ reason = .invalidAddress 0x1000 := by
  by_cases last : counter.toNat = 0xFFE
  · rw [AlignedAddress.advance_two_of_last last] at blocked
    exact ⟨last, (Except.error.inj blocked).symm⟩
  · obtain ⟨next, past, _⟩ := AlignedAddress.advance_two_of_ne last
    rw [past] at blocked
    cases blocked

theorem leftAsWas_of_blocked {machine : Machine} (kept : machine.Keeps after)
    (done : machine.effect random instruction = .ok ⟨after, .next, log⟩)
    (blocked : machine.counter.advance 2 = .error reason) :
    machine.LeftAsWas random instruction reason after := by
  obtain ⟨last, beyond⟩ := counter_of_blocked blocked
  refine ⟨kept.counter, kept.stack, fun below => absurd last below, fun _ => .inr ⟨beyond, ?_⟩⟩
  intro lower below
  obtain ⟨counter, next, moved⟩ := execute_movedTo below done
  refine ⟨_, moved, rfl, next, ?_⟩
  have same := kept.counter
  cases after
  cases same
  rfl

theorem leftAsWas_of_failure {machine : Machine}
    (failed : (machine.execute random instruction).failure = some reason) :
    machine.LeftAsWas random instruction reason (machine.execute random instruction).machine := by
  rcases execute_failure failed with ⟨_, same⟩ | ⟨made, done, blocked, same⟩
  · rw [same]
    exact .refl
  · rw [same]
    cases course_of_effect done with
    | next kept => exact leftAsWas_of_blocked kept done blocked
    | skip => exact .refl
    | stay => cases blocked
    | jump => cases blocked
    | call room => cases blocked
    | ret opened past => cases blocked

/-- A failed instruction leaves the machine as it was, and a failed cycle adds
nothing but the record of the fault. -/
theorem failure_leavesAsWas (machine : Machine) (random : UInt8) :
    (∀ instruction reason, (machine.execute random instruction).failure = some reason →
      machine.LeftAsWas random instruction reason (machine.execute random instruction).machine) ∧
    (∀ reason, (machine.cycle random).failure = some reason →
      ∃ after, machine.LeftAsWas random machine.currentInstruction reason after ∧
        (machine.cycle random).machine = { after with fault := some reason }) := by
  refine ⟨fun instruction reason failed => leftAsWas_of_failure failed, ?_⟩
  intro reason failed
  obtain ⟨_, executed, recorded⟩ := cycle_failure failed
  exact ⟨_, leftAsWas_of_failure executed, recorded⟩

/-- A register is loaded in the last word although the execution fails. -/
example :
    let machine := (initial .standard false).movedTo ⟨⟨0xFFE, by decide⟩, by decide⟩
    let outcome := machine.execute 0 (.loadByte 0 7)
    outcome.failure = some (.invalidAddress 0x1000) ∧ outcome.machine.register 0 = 7 := ⟨rfl, rfl⟩

end Machine

end Chip8
