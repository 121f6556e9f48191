import Chip8.Host.Call

/-! The interface for hosts that pass numbers and handles only. A handle may be
null; every call on a null handle is answered and has no effect. -/
namespace Chip8

/-- A machine, or nothing for a null handle. -/
abbrev Handle := Option Machine

/-- The bytes that a host points at, or the length it gives with a null pointer. -/
inductive Buffer where
  | null (length : UInt64)
  | data (bytes : List UInt8)

/-- A null pointer still stands for no bytes. -/
def Buffer.bytes? : Buffer → Option (List UInt8)
  | null length => if length = 0 then some [] else none
  | data bytes => some bytes

inductive HandleCall where
  | load (buffer : Buffer)
  | reload
  | cycle (random : UInt8)
  | tick
  | press (code : Int32)
  | release (code : Int32)
  | takeUpdated
  | setMode (number : Int32)
  | togglePause

namespace HandleCall

/-- A number that is no byte stands for the byte 255, which is no key. -/
def keyCode (number : Int32) : UInt8 :=
  if 0 ≤ number ∧ number ≤ 255 then UInt8.ofNat number.toNatClampNeg else 255

/-- The call on the machine, or nothing where a null pointer forbids it. -/
def call? : HandleCall → Option Call
  | load buffer => buffer.bytes?.map .load
  | reload => some .reload
  | cycle random => some (.cycle random)
  | tick => some .tick
  | press code => some (.press (keyCode code))
  | release code => some (.release (keyCode code))
  | takeUpdated => some .takeUpdated
  | setMode number => some (.setMode (.ofExtended (number != 0)))
  | togglePause => some .togglePause

/-- The status that a null pointer is answered with. -/
def nullStatus : Int32 := -1

/-- What the call returns on a null handle, if it returns anything. -/
def nullAnswer : HandleCall → Option Int32
  | load _ => some nullStatus
  | cycle _ => some nullStatus
  | press _ => some nullStatus
  | release _ => some nullStatus
  | takeUpdated => some 0
  | reload => none
  | tick => none
  | setMode _ => none
  | togglePause => none

end HandleCall

def Fault.status (fault : Fault) : Int32 := Int32.ofNat fault.code

/-- The number an answer is passed as. -/
def Answer.status : Answer → Int32
  | failed fault => fault.status
  | flag value => if value then 1 else 0
  | _ => 0

/-- How a call on a handle returns. -/
structure HandleReply where
  handle : Handle
  /-- The number returned, for the calls that return one. -/
  status : Option Int32
  log : List Event

namespace Handle

def perform (handle : Handle) (call : HandleCall) : HandleReply :=
  match handle with
  | none => ⟨none, call.nullAnswer, []⟩
  | some machine =>
    match call.call? with
    | none => ⟨some machine, some HandleCall.nullStatus, []⟩
    | some made =>
      let reply := machine.perform made
      ⟨some reply.machine, call.nullAnswer.map fun _ => reply.answer.status, reply.log⟩

/-- The code of the fault that stopped execution, or zero without one. -/
def faultStatus : Handle → Int32
  | none => HandleCall.nullStatus
  | some machine => (machine.fault.map Fault.status).getD 0

/-- One while the screen has its larger resolution. -/
def highResolutionStatus : Handle → Int32
  | none => 0
  | some machine => if machine.screen.resolution = .high then 1 else 0

/-- The active pixels, row by row. -/
def display? (handle : Handle) : Option (Array Bool) :=
  handle.map fun machine => machine.screen.pixels

end Handle

end Chip8
