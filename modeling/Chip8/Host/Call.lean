import Chip8.Host.Part
import Chip8.Machine.Cycle

/-! Every call that a host can make on a machine. A run of a machine is a list
of calls; the random bytes it draws are part of the calls that draw them. -/
namespace Chip8

inductive Call where
  | load (bytes : List UInt8)
  | loadFrom (source : Source)
  | reload
  | togglePause
  | setMode (mode : Mode)
  | setDialect (dialect : Dialect)
  | cycle (random : UInt8)
  | execute (random : UInt8) (instruction : Instruction)
  | tick
  | press (code : UInt8)
  | release (code : UInt8)
  | takeUpdated
  | setRegister (x : Register) (value : UInt8)
  | setIndex (value : UInt16)
  | setDelay (value : UInt8)
  | setSound (value : UInt8)
  | screen (call : ScreenCall)
  | memory (call : MemoryCall)
  | keypad (call : KeypadCall)

/-- How a call on a machine returns. -/
structure Reply where
  machine : Machine
  answer : Answer
  log : List Event

namespace Reply

def quiet (machine : Machine) (answer : Answer) : Reply := ⟨machine, answer, []⟩

def done (machine : Machine) : Reply := quiet machine .done

def ofOutcome (outcome : Outcome) : Reply :=
  ⟨outcome.machine, .ofFailure outcome.failure, outcome.log⟩

def ofChange (before : Machine) (change : Except Fault Machine) : Reply :=
  let (answer, machine) := Answer.ofChange before change
  quiet machine answer

end Reply

namespace Machine

def performScreen (machine : Machine) (call : ScreenCall) : Reply :=
  let (answer, screen) := machine.screen.perform call
  .quiet { machine with screen } answer

def performMemory (machine : Machine) (call : MemoryCall) : Reply :=
  let (answer, memory) := machine.memory.perform call
  .quiet { machine with memory } answer

def performKeypad (machine : Machine) (call : KeypadCall) : Reply :=
  let (answer, keypad) := machine.keypad.perform call
  .quiet { machine with keypad } answer

def perform (machine : Machine) : Call → Reply
  | .load bytes =>
    match machine.load bytes with
    | .ok loaded => ⟨loaded, .done, [.loaded loaded.program.size]⟩
    | .error fault => .quiet machine (.failed fault)
  | .loadFrom source =>
    match machine.loadFrom source with
    | .ok loaded => ⟨loaded, .done, [.loaded loaded.program.size]⟩
    | .error error => .quiet machine (.ofLoadError error)
  | .reload => ⟨machine.restart, .done, [.reloaded machine.program.size]⟩
  | .togglePause => ⟨machine.togglePause, .done, [.pauseSwitched (!machine.paused)]⟩
  | .setMode mode => ⟨machine.setMode mode, .done, [.modeSwitched mode]⟩
  | .setDialect dialect => .done (machine.setDialect dialect)
  | .cycle random => .ofOutcome (machine.cycle random)
  | .execute random instruction => .ofOutcome (machine.execute random instruction)
  | .tick => .done machine.tick
  | .press code => .ofChange machine (machine.press code)
  | .release code => .ofChange machine (machine.release code)
  | .takeUpdated => machine.performScreen .takeUpdated
  | .setRegister x value => .done (machine.setRegister x value)
  | .setIndex value => .done (machine.setIndex value)
  | .setDelay value => .done (machine.setDelay value)
  | .setSound value => .done (machine.setSound value)
  | .screen call => machine.performScreen call
  | .memory call => machine.performMemory call
  | .keypad call => machine.performKeypad call

/-- The machine after a run of calls. -/
def run (machine : Machine) (calls : List Call) : Machine :=
  calls.foldl (fun reached call => (reached.perform call).machine) machine

end Machine

end Chip8
