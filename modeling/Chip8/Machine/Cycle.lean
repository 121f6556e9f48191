import Chip8.Machine.Execute

/-! One step of a machine at its program counter. A fault stops the machine for
good, until a program is loaded or started over. -/
namespace Chip8.Machine

/-- Paused, ended or faulted: a machine that no cycle moves. -/
def stopped (machine : Machine) : Bool :=
  machine.paused || machine.halted || machine.fault.isSome

/-- Hands over the lowest key that went down, if one did. -/
def deliverKey (machine : Machine) (x : Register) : Machine :=
  match machine.keypad.firstPending with
  | none => machine
  | some key =>
    { machine with
      keypad := machine.keypad.clearPending
      runState := .running }.setRegister x (UInt8.ofNat key.val)

/-- Executes the instruction at the program counter and records its fault. -/
def step (machine : Machine) (random : UInt8) : Outcome :=
  let instruction := machine.currentInstruction
  let outcome := machine.execute random instruction
  let log := .executing machine.counter.toAddress instruction :: outcome.log
  match outcome.failure with
  | none => { outcome with log }
  | some fault =>
    let counter := outcome.machine.counter.toAddress
    ⟨{ outcome.machine with fault := some fault }, some fault, log ++ [.stopped counter fault]⟩

/-- A machine that receives its key starts to execute with the cycle after. -/
def cycle (machine : Machine) (random : UInt8) : Outcome :=
  if machine.stopped then ⟨machine, none, []⟩
  else
    match machine.runState with
    | .awaiting x => ⟨machine.deliverKey x, none, []⟩
    | .running => machine.step random

end Chip8.Machine
