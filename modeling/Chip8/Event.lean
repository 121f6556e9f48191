import Chip8.Fault
import Chip8.Instruction.Text
import Chip8.Mode

/-! What the machine tells its host about as it happens. -/
namespace Chip8

inductive Level where
  | error
  | warn
  | info
  | debug
  | trace
deriving DecidableEq

namespace Level

/-- Higher is more talkative. -/
def verbosity : Level → Nat
  | error => 0
  | warn => 1
  | info => 2
  | debug => 3
  | trace => 4

/-- A host that listens at one level hears all the graver ones as well. -/
def hears (listening level : Level) : Bool := decide (level.verbosity ≤ listening.verbosity)

def text : Level → String
  | error => "ERROR"
  | warn => "WARN"
  | info => "INFO"
  | debug => "DEBUG"
  | trace => "TRACE"

end Level

inductive Event where
  | loaded (size : Nat)
  | reloaded (size : Nat)
  | modeSwitched (mode : Mode)
  | pauseSwitched (paused : Bool)
  | screenSwitched (resolution : Resolution)
  | exited
  | executing (counter : Address) (instruction : Instruction)
  | stopped (counter : Address) (fault : Fault)
deriving DecidableEq

namespace Event

def level : Event → Level
  | loaded _ => .debug
  | reloaded _ => .debug
  | modeSwitched _ => .info
  | pauseSwitched _ => .info
  | screenSwitched _ => .info
  | exited => .info
  | executing .. => .trace
  | stopped .. => .warn

def message : Event → String
  | loaded size => "loaded " ++ size.repr ++ "-byte program"
  | reloaded size => "reloaded " ++ size.repr ++ "-byte program"
  | modeSwitched mode => "switched to " ++ mode.text ++ " mode"
  | pauseSwitched paused => if paused then "paused" else "resumed"
  | screenSwitched resolution => "switched to " ++ resolution.text ++ " display"
  | exited => "program exited"
  | executing counter instruction => counter.text ++ ": " ++ instruction.text
  | stopped counter fault => "execution stopped at " ++ counter.text ++ ": " ++ fault.message

/-- The line of a log. -/
def line (event : Event) : String := event.level.text ++ ": " ++ event.message

end Event

end Chip8
