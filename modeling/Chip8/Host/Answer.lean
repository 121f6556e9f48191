import Chip8.Machine.Load

/-! What a host is told when a call returns. -/
namespace Chip8

inductive Answer where
  | done
  | failed (fault : Fault)
  /-- The program could not be read, for the cause its source gave. -/
  | unreadable (cause : String)
  | flag (value : Bool)
  | key (pressed : Option Key)
  /-- What a painter was given, if it was called, and how it ended. -/
  | painted (seen : Option Screen) (failure : Option Fault)

namespace Answer

def ofFailure : Option Fault → Answer
  | none => done
  | some fault => failed fault

def ofLoadError : LoadError → Answer
  | .rejected fault => failed fault
  | .unreadable cause => unreadable cause

end Answer

end Chip8
