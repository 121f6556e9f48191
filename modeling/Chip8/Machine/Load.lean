import Chip8.Machine.Basic

/-! Loading programs and starting them over. -/
namespace Chip8

/-- Why a program could not be loaded from a source. -/
inductive LoadError where
  | rejected (fault : Fault)
  /-- The source failed, for the cause it gave. -/
  | unreadable (cause : String)
deriving DecidableEq

def LoadError.message : LoadError → String
  | rejected fault => fault.message
  | unreadable _ => "could not read program data"

namespace Machine

/-- Starts the loaded program over. What the host has set stays as it is: mode,
dialect, pause and the keys it holds down; so do the flags. -/
def restart (machine : Machine) : Machine :=
  { machine with
    memory := .withProgram machine.program
    screen := machine.screen.setResolution machine.mode.resolution
    keypad := machine.keypad.clearPending
    registers := .replicate 16 0
    index := 0
    timers := .zero
    counter := .start
    stack := []
    runState := .running
    halted := false
    fault := none }

/-- Takes up a program that fits, with all flags zero. -/
def install (machine : Machine) (program : Program) : Machine :=
  { machine with program, flags := .replicate flagCount 0 }.restart

def load (machine : Machine) (bytes : List UInt8) : Except Fault Machine :=
  if fits : bytes.length ≤ programCapacity then .ok (machine.install ⟨bytes, fits⟩)
  else .error (.programTooLarge bytes.length)

/-- Reads at most one byte more than fits, which is enough to know that the
program does not fit; only before that can a failing source be noticed. -/
def loadFrom (machine : Machine) (source : Source) : Except LoadError Machine :=
  let bytes := source.bytes.take (programCapacity + 1)
  match source.failure with
  | some cause =>
    if bytes.length ≤ programCapacity then .error (.unreadable cause)
    else (machine.load bytes).mapError .rejected
  | none => (machine.load bytes).mapError .rejected

end Machine

end Chip8
