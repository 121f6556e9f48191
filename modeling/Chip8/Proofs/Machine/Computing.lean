import Chip8.Proofs.Address
import Chip8.Proofs.General
import Chip8.Proofs.Machine.Run

/-! What the instructions compute that work on registers alone, in plain numbers. Both
operands are read before anything is stored, and the flag is stored last: where the
result goes to the flag register as well, the flag wins. -/
namespace Chip8

namespace Arithmetic

/-- The operand of a shift. -/
def operand (dialect : Dialect) (a b : Nat) : Nat := if dialect.shiftsSecond then b else a

/-- The number that an operation comes to. A register keeps it modulo 256. -/
def result (dialect : Dialect) (a b : Nat) : Arithmetic → Int
  | copy => b
  | or => (a ||| b : Nat)
  | and => (a &&& b : Nat)
  | xor => (a ^^^ b : Nat)
  | add => a + b
  | subtract => a - b
  | shiftRight => (operand dialect a b / 2 : Nat)
  | subtractFrom => b - a
  | shiftLeft => 2 * operand dialect a b

/-- The number for the flag register, if the operation has one. -/
def flagged (dialect : Dialect) (a b : Nat) : Arithmetic → Option Nat
  | copy => none
  | or => if dialect.logicClearsFlag then some 0 else none
  | and => if dialect.logicClearsFlag then some 0 else none
  | xor => if dialect.logicClearsFlag then some 0 else none
  | add => some (if 255 < a + b then 1 else 0)
  | subtract => some (if b ≤ a then 1 else 0)
  | shiftRight => some (operand dialect a b % 2)
  | subtractFrom => some (if a ≤ b then 1 else 0)
  | shiftLeft => some (operand dialect a b / 128)

variable (operation : Arithmetic) (dialect : Dialect) (a b : UInt8)

theorem toNat_shifted :
    (if dialect.shiftsSecond then b else a).toNat = operand dialect a.toNat b.toNat :=
  apply_ite UInt8.toNat _ b a

theorem toNat_compute :
    ((operation.compute dialect a b).1.toNat : Int) =
      operation.result dialect a.toNat b.toNat % 256 := by
  have boundA := a.toNat_lt
  have boundB := b.toNat_lt
  cases operation with
  | copy => exact (UInt8.emod_toNat b).symm
  | or =>
    simp only [compute, result, ← UInt8.toNat_or]
    exact (UInt8.emod_toNat (a ||| b)).symm
  | and =>
    simp only [compute, result, ← UInt8.toNat_and]
    exact (UInt8.emod_toNat (a &&& b)).symm
  | xor =>
    simp only [compute, result, ← UInt8.toNat_xor]
    exact (UInt8.emod_toNat (a ^^^ b)).symm
  | add =>
    simp only [compute, result, UInt8.toNat_add]
    omega
  | subtract =>
    simp only [compute, result, UInt8.toNat_sub]
    omega
  | subtractFrom =>
    simp only [compute, result, UInt8.toNat_sub]
    omega
  | shiftRight =>
    simp only [compute, result, ← toNat_shifted]
    generalize (if dialect.shiftsSecond then b else a) = shifted
    have halved : (shifted / 2).toNat = shifted.toNat / 2 := UInt8.toNat_div shifted 2
    rw [← halved]
    exact (UInt8.emod_toNat (shifted / 2)).symm
  | shiftLeft =>
    simp only [compute, result, ← toNat_shifted]
    generalize (if dialect.shiftsSecond then b else a) = shifted
    have doubled : (shifted * 2).toNat = shifted.toNat * 2 % 256 := UInt8.toNat_mul shifted 2
    omega

theorem flagged_compute :
    (operation.compute dialect a b).2.map UInt8.toNat =
      operation.flagged dialect a.toNat b.toNat := by
  have cleared : (if dialect.logicClearsFlag then some (0 : UInt8) else none).map UInt8.toNat =
      if dialect.logicClearsFlag then some 0 else none := apply_ite (Option.map UInt8.toNat) _ _ _
  cases operation with
  | copy => rfl
  | or => exact cleared
  | and => exact cleared
  | xor => exact cleared
  | add => exact congrArg some (apply_ite UInt8.toNat _ 1 0)
  | subtract => exact congrArg some (apply_ite UInt8.toNat _ 1 0)
  | subtractFrom => exact congrArg some (apply_ite UInt8.toNat _ 1 0)
  | shiftRight =>
    simp only [compute, flagged, ← toNat_shifted]
    exact congrArg some (UInt8.toNat_mod _ 2)
  | shiftLeft =>
    simp only [compute, flagged, ← toNat_shifted]
    exact congrArg some (UInt8.toNat_div _ 128)

end Arithmetic

namespace Machine

variable {machine : Machine} {x y : Register} {result : UInt8 × Option UInt8}

/-- Whatever else was stored, the flag register holds the flag. -/
theorem register_setResult_flag (told : result.2 = some flag) :
    (machine.setResult x result).register Register.flag = flag := by
  obtain ⟨value, _⟩ := result
  cases told
  simp only [setResult, register_setRegister, if_true]

theorem register_setResult (apart : y = Register.flag → result.2 = none) :
    (machine.setResult x result).register y = if y = x then result.1 else machine.register y := by
  obtain ⟨value, flag⟩ := result
  cases flag with
  | none => exact machine.register_setRegister x y value
  | some flag =>
    have other : y ≠ Register.flag := fun same => Option.some_ne_none flag (apart same)
    simp only [setResult, register_setRegister, if_neg other]

/-- What is left by an instruction that computes a number for one register, and perhaps
another one for the flag register. -/
structure Computes (before : Machine) (x : Register) (number : Int) (flagged : Option Nat)
    (outcome : Outcome) : Prop where
  failure : outcome.failure = none
  log : outcome.log = []
  counter : outcome.machine.counter.toNat = before.counter.toNat + 2
  flag : ∀ reported, flagged = some reported →
    (outcome.machine.register Register.flag).toNat = reported
  result : (x = Register.flag → flagged = none) →
    ((outcome.machine.register x).toNat : Int) = number % 256
  rest : ∀ y, y ≠ x → (y = Register.flag → flagged = none) →
    outcome.machine.register y = before.register y
  others : outcome.machine = { before with
    registers := outcome.machine.registers
    counter := outcome.machine.counter }

theorem computes_of_next (inside : machine.counter.toNat < 0xFFE)
    (done : machine.effect random instruction = .ok (.next (machine.setResult x result)))
    (number : (result.1.toNat : Int) = value % 256)
    (flag : result.2.map UInt8.toNat = flagged) :
    machine.Computes x value flagged (machine.execute random instruction) := by
  obtain ⟨next, reached, past⟩ := AlignedAddress.advance_two_of_ne (Nat.ne_of_lt inside)
  have untold : flagged = none → result.2 = none :=
    fun none => Option.map_eq_none_iff.mp (flag.trans none)
  rw [execute_of_moved done reached]
  refine ⟨rfl, rfl, past, ?_, ?_, ?_, ?_⟩
  · intro reported told
    obtain ⟨byte, stored, same⟩ := Option.map_eq_some_iff.mp (flag.trans told)
    subst same
    exact congrArg UInt8.toNat (register_setResult_flag stored)
  · intro apart
    have stored : (machine.setResult x result).register x = result.1 :=
      (register_setResult fun same => untold (apart same)).trans (if_pos rfl)
    rw [← number, ← stored]
    rfl
  · intro y other apart
    exact (register_setResult fun same => untold (apart same)).trans (if_neg other)
  · obtain ⟨byte, reported⟩ := result
    cases reported with
    | none => rfl
    | some reported => rfl

/-- What the instructions come to that compute with registers. -/
structure ComputesExactly (machine : Machine) : Prop where
  arithmetic : ∀ random operation x y,
    let a := (machine.register x).toNat
    let b := (machine.register y).toNat
    machine.Computes x (operation.result machine.dialect a b)
      (operation.flagged machine.dialect a b) (machine.execute random (.arithmetic operation x y))
  /-- To add a byte is never reported, even where the sum is too large. -/
  addByte : ∀ random x byte,
    machine.Computes x ((machine.register x).toNat + byte.toNat) none
      (machine.execute random (.addByte x byte))

theorem computes_exactly (inside : machine.counter.toNat < 0xFFE) : machine.ComputesExactly where
  arithmetic random operation x y :=
    computes_of_next inside rfl (operation.toNat_compute machine.dialect _ _)
      (operation.flagged_compute machine.dialect _ _)
  addByte random x byte := by
    have done : machine.effect random (.addByte x byte) =
        .ok (.next (machine.setResult x (machine.register x + byte, none))) := rfl
    exact computes_of_next inside done (Arithmetic.toNat_compute .add machine.dialect _ _) rfl

/-- The carry replaces the sum in the flag register, and a difference is taken from the
value that the flag register had before. -/
theorem carry_replaces_sum :
    let machine := ((initial .standard false).setRegister .flag 200).setRegister (.ofNat 1) 100
    machine.counter.toNat < 0xFFE ∧
      ((machine.execute 0 (.arithmetic .add .flag (.ofNat 1))).machine.register .flag).toNat = 1 ∧
      ((machine.execute 0 (.arithmetic .subtract (.ofNat 1) .flag)).machine.register
        (.ofNat 1)).toNat = 156 := by
  intro machine
  have inside : machine.counter.toNat < 0xFFE := by decide
  have exactly := computes_exactly inside
  refine ⟨inside, (exactly.arithmetic 0 .add .flag (.ofNat 1)).flag 1 rfl, ?_⟩
  have apart : Register.ofNat 1 = Register.flag → False := by decide
  have difference := (exactly.arithmetic 0 .subtract (.ofNat 1) .flag).result fun same => (apart same).elim
  exact Int.ofNat_inj.mp difference

end Machine

end Chip8
