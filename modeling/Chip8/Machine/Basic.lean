import Chip8.Address.Basic
import Chip8.Instruction.Decode
import Chip8.Keypad
import Chip8.Memory
import Chip8.Screen.Basic
import Chip8.Timers

/-! The whole state of a machine. -/
namespace Chip8

inductive RunState where
  | running
  /-- Blocked until a key goes down, whose number the register receives. -/
  | awaiting (register : Register)
deriving DecidableEq

structure Machine where
  memory : Memory
  screen : Screen
  keypad : Keypad
  registers : Vector UInt8 16
  index : UInt16
  timers : Timers
  counter : AlignedAddress
  /-- The addresses of the calls that are open, the innermost first. -/
  stack : List AlignedAddress
  flags : Vector UInt8 flagCount
  runState : RunState
  mode : Mode
  dialect : Dialect
  /-- The last program that was loaded. -/
  program : Program
  /-- The host has paused execution. -/
  paused : Bool
  /-- The program has ended itself. -/
  halted : Bool
  /-- What stopped execution, if anything did. -/
  fault : Option Fault
deriving DecidableEq

namespace Machine

/-- A machine without a program. -/
def initial (mode : Mode) (clipsSprites : Bool) : Machine where
  memory := .blank
  screen := .blank mode.resolution
  keypad := .released
  registers := .replicate 16 0
  index := 0
  timers := .zero
  counter := .start
  stack := []
  flags := .replicate flagCount 0
  runState := .running
  mode := mode
  dialect := .ofMode mode clipsSprites
  program := .empty
  paused := false
  halted := false
  fault := none

def register (machine : Machine) (x : Register) : UInt8 := machine.registers[x]

def setRegister (machine : Machine) (x : Register) (value : UInt8) : Machine :=
  { machine with registers := machine.registers.set x value }

theorem register_setRegister (machine : Machine) (x y : Register) (value : UInt8) :
    (machine.setRegister x value).register y = if y = x then value else machine.register y := by
  by_cases same : y = x
  · simp [setRegister, register, same]
  · have apart : x.val ≠ y.val := fun equal => same (Fin.ext equal.symm)
    simp [setRegister, register, same, apart]

def setIndex (machine : Machine) (value : UInt16) : Machine := { machine with index := value }

def setDelay (machine : Machine) (value : UInt8) : Machine :=
  { machine with timers := { machine.timers with delay := value } }

def setSound (machine : Machine) (value : UInt8) : Machine :=
  { machine with timers := { machine.timers with sound := value } }

def tick (machine : Machine) : Machine := { machine with timers := machine.timers.tick }

def togglePause (machine : Machine) : Machine := { machine with paused := !machine.paused }

/-- Switches the instruction table and the dialect, but for the clipping of
sprites, and clears the screen even when the mode stays the same. -/
def setMode (machine : Machine) (mode : Mode) : Machine :=
  { machine with
    mode
    dialect := .ofMode mode machine.dialect.clipsSprites
    screen := machine.screen.setResolution mode.resolution }

def setDialect (machine : Machine) (dialect : Dialect) : Machine := { machine with dialect }

def press (machine : Machine) (code : UInt8) : Except Fault Machine := do
  let key ← Key.ofCode code
  return { machine with keypad := machine.keypad.press key }

def release (machine : Machine) (code : UInt8) : Except Fault Machine := do
  let key ← Key.ofCode code
  return { machine with keypad := machine.keypad.release key }

/-- The opcode at the program counter. -/
def currentOpcode (machine : Machine) : Opcode := machine.memory.opcodeAt machine.counter

def currentInstruction (machine : Machine) : Instruction :=
  machine.currentOpcode.decode machine.mode

end Machine

end Chip8
