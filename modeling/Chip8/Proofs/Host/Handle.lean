import Chip8.Host.Handle
import Chip8.Proofs.Machine.KeyMove
import Chip8.Proofs.Machine.Stopping
import Mathlib.Data.List.Induction

/-! The interface of numbers and handles serves a host as the methods of a machine
do, and what it answers tells when the machine has stopped. -/
namespace Chip8

/-- The key that a host means by a number, if it means one. -/
def Key.ofNumber (number : Int) : Option Key :=
  if known : 0 ≤ number ∧ number ≤ 15 then some ⟨number.toNat, by omega⟩ else none

namespace HandleCall

/-- What a null handle answers with: that it is null, or a flag that is not set. -/
def nullNumber : HandleCall → Option Int
  | load _ => some (-1)
  | cycle _ => some (-1)
  | press _ => some (-1)
  | release _ => some (-1)
  | takeUpdated => some 0
  | _ => none

/-- The call starts a program from the beginning. -/
def starts : HandleCall → Bool
  | load buffer => buffer.bytes?.any fun bytes => decide (bytes.length ≤ programCapacity)
  | reload => true
  | _ => false

end HandleCall

/-- What a method of a machine leaves, and the number that stands for its result
where it has one. -/
structure Service where
  machine : Machine
  number : Option Int

namespace Service

/-- Success is zero. -/
def code : Option Fault → Int
  | none => 0
  | some fault => fault.code

def ofChange (before : Machine) : Except Fault Machine → Service
  | .ok after => ⟨after, some (code none)⟩
  | .error fault => ⟨before, some (code (some fault))⟩

/-- Acts on the key with the number; all other numbers are refused. -/
def ofKey (machine : Machine) (act : Keypad → Key → Keypad) (number : Int) : Service :=
  match Key.ofNumber number with
  | some key => ⟨{ machine with keypad := act machine.keypad key }, some 0⟩
  | none => ⟨machine, some 6⟩

end Service

/-- The call of a host, made with the methods of the machine. -/
def Machine.serve (machine : Machine) : HandleCall → Service
  | .load (.data bytes) => .ofChange machine (machine.load bytes)
  | .load (.null length) =>
    if length = 0 then .ofChange machine (machine.load []) else ⟨machine, some (-1)⟩
  | .reload => ⟨machine.restart, none⟩
  | .cycle random =>
    let outcome := machine.cycle random
    ⟨outcome.machine, some (Service.code outcome.failure)⟩
  | .tick => ⟨machine.tick, none⟩
  | .press number => .ofKey machine Keypad.press number.toInt
  | .release number => .ofKey machine Keypad.release number.toInt
  | .takeUpdated =>
    let screen := { machine.screen with dirty := false }
    ⟨{ machine with screen }, some (if machine.screen.dirty then 1 else 0)⟩
  | .setMode number =>
    ⟨machine.setMode (if number.toInt = 0 then .standard else .extended), none⟩
  | .togglePause => ⟨machine.togglePause, none⟩

theorem Answer.status_ofFailure (failure : Option Fault) :
    (Answer.ofFailure failure).status = (failure.map Fault.status).getD 0 := by
  cases failure <;> rfl

/-- A fault has the same number on both sides. -/
theorem Service.toInt_status (fault : Option Fault) :
    ((fault.map Fault.status).getD 0).toInt = code fault := by
  cases fault with
  | none => rfl
  | some reason => cases reason <;> rfl

namespace HandleCall

theorem starts_eq (call : HandleCall) : call.starts = call.call?.any Call.resets := by
  cases call with
  | load buffer =>
    simp only [starts, call?, Option.any_map]
    rfl
  | _ => rfl

theorem drives_of_call? {call : HandleCall} (made : call.call? = some action) :
    action.drives = true ∧ ∀ random, action = .cycle random → call = .cycle random := by
  cases call with
  | load buffer =>
    obtain ⟨bytes, _, rfl⟩ := Option.map_eq_some_iff.mp made
    exact ⟨rfl, fun random cycle => by cases cycle⟩
  | cycle random =>
    cases made
    exact ⟨rfl, fun other same => by cases same; rfl⟩
  | _ =>
    cases made
    exact ⟨rfl, fun random cycle => by cases cycle⟩

theorem toNat_keyCode (number : Int32) : (keyCode number).toNat =
    if 0 ≤ number.toInt ∧ number.toInt ≤ 255 then number.toInt.toNat else 255 := by
  have lower : 0 ≤ number ↔ 0 ≤ number.toInt := Int32.le_iff_toInt_le
  have upper : number ≤ 255 ↔ number.toInt ≤ 255 := Int32.le_iff_toInt_le
  simp only [keyCode, lower, upper]
  split
  · have small : number.toInt.toNat < 256 := by omega
    exact UInt8.toNat_ofNat_of_lt' small
  · rfl

/-- Narrowing a number to a byte takes no other number for a key. -/
theorem ofCode_keyCode (number : Int32) : Key.ofCode (keyCode number) =
    match Key.ofNumber number.toInt with
    | some key => .ok key
    | none => .error (.invalidKeyCode (keyCode number)) := by
  have byte := toNat_keyCode number
  unfold Key.ofNumber Key.ofCode
  by_cases known : 0 ≤ number.toInt ∧ number.toInt ≤ 15
  · rw [if_pos (by omega)] at byte
    have few : number.toInt.toNat < 16 := by omega
    simp only [known, byte, few, and_self, dite_true]
  · have many : ¬ (keyCode number).toNat < 16 := by
      split at byte <;> omega
    simp only [known, many, dite_false]

theorem ofExtended_toInt (number : Int32) :
    Mode.ofExtended (number != 0) = if number.toInt = 0 then .standard else .extended := by
  by_cases zero : number = 0
  · subst zero
    rfl
  · have apart : number.toInt ≠ 0 := fun same => zero (Int32.toInt_inj.mp same)
    simp [Mode.ofExtended, zero, apart]

end HandleCall

/-- The reply is what the methods of a machine give. -/
structure HandleReply.Gives (reply : HandleReply) (service : Service) : Prop where
  handle : reply.handle = some service.machine
  number : reply.status.map Int32.toInt = service.number

namespace Handle

theorem gives_load (machine : Machine) (pointed : buffer.bytes? = some bytes) :
    (perform (some machine) (.load buffer)).Gives (.ofChange machine (machine.load bytes)) := by
  simp only [perform, HandleCall.call?, HandleCall.nullAnswer, pointed, Option.map, Machine.perform]
  cases machine.load bytes with
  | ok loaded => exact ⟨rfl, rfl⟩
  | error fault => exact ⟨rfl, congrArg some (Service.toInt_status (some fault))⟩

/-- Whatever a call does with a key, it does it with the key that the number means. -/
theorem gives_key (machine : Machine) (move : KeyMove) (number : Int32)
    (answers : call.nullAnswer = some HandleCall.nullStatus)
    (made : call.call? = some (move.call (HandleCall.keyCode number))) :
    (perform (some machine) call).Gives (.ofKey machine move.act number.toInt) := by
  simp only [perform, made, answers, machine.perform_key move, Service.ofKey,
    HandleCall.ofCode_keyCode]
  cases Key.ofNumber number.toInt with
  | some key => exact ⟨rfl, rfl⟩
  | none => exact ⟨rfl, rfl⟩

/-- One call on a handle is one call of a method. -/
theorem perform_gives (machine : Machine) (call : HandleCall) :
    (perform (some machine) call).Gives (machine.serve call) := by
  cases call with
  | load buffer =>
    cases buffer with
    | data bytes => exact gives_load machine rfl
    | null length =>
      by_cases empty : length = 0
      · rw [Machine.serve, if_pos empty]
        exact gives_load machine (if_pos empty)
      · simp only [perform, HandleCall.call?, Buffer.bytes?, Machine.serve, if_neg empty]
        exact ⟨rfl, rfl⟩
  | cycle random =>
    refine ⟨rfl, congrArg some ?_⟩
    exact (congrArg Int32.toInt (Answer.status_ofFailure _)).trans (Service.toInt_status _)
  | press number => exact gives_key machine .press number rfl rfl
  | release number => exact gives_key machine .release number rfl rfl
  | takeUpdated =>
    refine ⟨rfl, congrArg some ?_⟩
    change (Answer.flag machine.screen.dirty).status.toInt = _
    cases machine.screen.dirty <;> rfl
  | setMode number =>
    refine ⟨?_, rfl⟩
    exact congrArg (fun mode => some (machine.setMode mode)) (HandleCall.ofExtended_toInt number)
  | _ => exact ⟨rfl, rfl⟩

/-- The handle and the number after each of the calls. -/
def trace (handle : Handle) : List HandleCall → List (Handle × Option Int)
  | [] => []
  | call :: rest =>
    let reply := handle.perform call
    (reply.handle, reply.status.map Int32.toInt) :: trace reply.handle rest

def run (handle : Handle) (calls : List HandleCall) : Handle :=
  calls.foldl (fun reached call => (reached.perform call).handle) handle

end Handle

namespace Machine

/-- What the methods give for each of the calls. -/
def services (machine : Machine) : List HandleCall → List Service
  | [] => []
  | call :: rest =>
    let service := machine.serve call
    service :: service.machine.services rest

def serveAll (machine : Machine) (calls : List HandleCall) : Machine :=
  calls.foldl (fun reached call => (reached.serve call).machine) machine

end Machine

namespace Handle

theorem trace_services (machine : Machine) (calls : List HandleCall) :
    trace (some machine) calls =
      (machine.services calls).map fun service => (some service.machine, service.number) := by
  induction calls generalizing machine with
  | nil => rfl
  | cons call rest ih =>
    obtain ⟨handle, number⟩ := perform_gives machine call
    simp only [trace, Machine.services, List.map_cons, handle, number, ih]

theorem run_serveAll (machine : Machine) (calls : List HandleCall) :
    run (some machine) calls = some (machine.serveAll calls) := by
  induction calls generalizing machine with
  | nil => rfl
  | cons call rest ih =>
    rw [run, List.foldl_cons, (perform_gives machine call).handle]
    exact ih (machine.serve call).machine

theorem trace_null (calls : List HandleCall) :
    trace none calls = calls.map fun call => (none, call.nullNumber) := by
  induction calls with
  | nil => rfl
  | cons call rest ih =>
    simp only [trace, perform, List.map_cons, ih]
    cases call <;> rfl

theorem run_concat (handle : Handle) (calls : List HandleCall) (call : HandleCall) :
    handle.run (calls ++ [call]) = ((handle.run calls).perform call).handle :=
  List.foldl_append

/-- A cycle returned the status, and no program was started since. -/
def FailedWith (handle : Handle) (calls : List HandleCall) (status : Int32) : Prop :=
  ∃ earlier random rest, calls = earlier ++ .cycle random :: rest ∧
    ((handle.run earlier).perform (.cycle random)).status = some status ∧
    ∀ call ∈ rest, call.starts = false

theorem failedWith_concat (handle : Handle) (calls : List HandleCall) (call : HandleCall) :
    handle.FailedWith (calls ++ [call]) status ↔ call.starts = false ∧
      (handle.FailedWith calls status ∨ ∃ random, call = .cycle random ∧
        ((handle.run calls).perform call).status = some status) := by
  constructor
  · rintro ⟨earlier, random, rest, whole, failed, kept⟩
    rcases List.eq_nil_or_concat rest with rfl | ⟨others, last, rfl⟩
    · obtain ⟨rfl, same⟩ := List.append_inj' whole rfl
      cases same
      exact ⟨rfl, .inr ⟨random, rfl, failed⟩⟩
    · rw [List.concat_eq_append] at whole kept
      rw [← List.cons_append, ← List.append_assoc] at whole
      obtain ⟨rfl, same⟩ := List.append_inj' whole rfl
      cases same
      refine ⟨kept call (List.mem_append_right others List.mem_cons_self), .inl ?_⟩
      exact ⟨earlier, random, others, rfl, failed,
        fun other member => kept other (List.mem_append_left _ member)⟩
  · rintro ⟨kept, ⟨earlier, random, rest, rfl, failed, others⟩ | ⟨random, rfl, failed⟩⟩
    · refine ⟨earlier, random, rest ++ [call], by simp, failed, ?_⟩
      simpa [or_imp, forall_and, kept] using others
    · exact ⟨calls, random, [], rfl, failed, by simp⟩

theorem faultStatus_of_starts (machine : Machine) (starts : call.starts = true) :
    (perform (some machine) call).handle.faultStatus = 0 := by
  rw [HandleCall.starts_eq] at starts
  cases made : call.call? with
  | none =>
    rw [made] at starts
    cases starts
  | some action =>
    rw [made] at starts
    obtain ⟨loaded, restart⟩ := machine.perform_of_resets starts
    simp only [perform, made, restart]
    rfl

/-- Besides cycles and starts nothing touches the record of a fault. -/
theorem faultStatus_of_still (machine : Machine) (kept : call.starts = false)
    (still : ∀ random, call ≠ .cycle random) :
    (perform (some machine) call).handle.faultStatus = faultStatus (some machine) := by
  rw [HandleCall.starts_eq] at kept
  cases made : call.call? with
  | none => simp only [perform, made]
  | some action =>
    rw [made] at kept
    obtain ⟨drives, cycles⟩ := HandleCall.drives_of_call? made
    have same := machine.perform_sameProgram drives kept fun random cycle =>
      still random (cycles random cycle)
    simp only [perform, made, faultStatus, same.fault]

/-- A cycle that fails returns the status that is on record from then on. -/
theorem faultStatus_of_cycle (machine : Machine) (random : UInt8) (nonzero : status ≠ 0) :
    (perform (some machine) (.cycle random)).handle.faultStatus = status ↔
      faultStatus (some machine) = status ∨
        (perform (some machine) (.cycle random)).status = some status := by
  have returned : (perform (some machine) (.cycle random)).status =
      some (((machine.cycle random).failure.map Fault.status).getD 0) :=
    congrArg some (Answer.status_ofFailure _)
  have after : (perform (some machine) (.cycle random)).handle.faultStatus =
      ((machine.cycle random).machine.fault.map Fault.status).getD 0 := rfl
  rw [returned, after, faultStatus]
  cases failed : (machine.cycle random).failure with
  | none =>
    rw [(Machine.cycle_success failed).fault]
    simp [nonzero.symm]
  | some reason =>
    obtain ⟨moving, _, recorded⟩ := Machine.cycle_failure failed
    rw [recorded, Machine.not_faulted_of_moving moving]
    simp [nonzero.symm]

/-- The record after a call: what was there, or what a cycle has just returned. -/
theorem faultStatus_perform (machine : Machine) (kept : call.starts = false)
    (nonzero : status ≠ 0) :
    (perform (some machine) call).handle.faultStatus = status ↔
      faultStatus (some machine) = status ∨ ∃ random, call = .cycle random ∧
        (perform (some machine) call).status = some status := by
  by_cases cycles : ∃ random, call = .cycle random
  · obtain ⟨random, rfl⟩ := cycles
    rw [faultStatus_of_cycle machine random nonzero]
    simp
  · have still : ∀ random, call ≠ .cycle random := fun random same => cycles ⟨random, same⟩
    rw [faultStatus_of_still machine kept still]
    simp [still]

/-- The fault on record is the one that a cycle returned since the last start. -/
theorem faultStatus_run (machine : Machine) (clear : machine.fault = none)
    (calls : List HandleCall) (nonzero : status ≠ 0) :
    (run (some machine) calls).faultStatus = status ↔
      FailedWith (some machine) calls status := by
  induction calls using List.reverseRecOn with
  | nil =>
    have empty : ¬ FailedWith (some machine) [] status := by simp [FailedWith]
    simp [run, faultStatus, clear, nonzero.symm, empty]
  | append_singleton calls call ih =>
    rw [failedWith_concat, run_concat, ← ih, run_serveAll]
    cases starts : call.starts with
    | true => simp [faultStatus_of_starts _ starts, nonzero.symm]
    | false => simpa using faultStatus_perform _ starts nonzero

/-- A load is accepted if and only if it returns zero. -/
theorem status_load_eq_zero_iff (machine : Machine) (buffer : Buffer) :
    (perform (some machine) (.load buffer)).status = some 0 ↔
      (HandleCall.load buffer).starts = true := by
  simp only [perform, HandleCall.call?, HandleCall.nullAnswer, HandleCall.starts]
  cases buffer.bytes? with
  | none => simp [HandleCall.nullStatus]
  | some bytes =>
    by_cases fits : bytes.length ≤ programCapacity
    · simp [Machine.perform, machine.load_of_le fits, Answer.status, fits]
    · simp [Machine.perform, machine.load_of_lt (Nat.not_le.mp fits), Reply.quiet, Answer.status,
        Fault.status, Fault.code, fits]

/-- A handle to a new machine. -/
def fresh : Handle := some (.initial .standard false)

/-- What a host may rely on that makes the calls on a new handle, or on a null one. -/
structure Refines (calls : List HandleCall) : Prop where
  replies : fresh.trace calls = ((Machine.initial .standard false).services calls).map
    fun service => (some service.machine, service.number)
  reached : fresh.run calls = some ((Machine.initial .standard false).serveAll calls)
  fault : (fresh.run calls).faultStatus.toInt =
    Service.code ((Machine.initial .standard false).serveAll calls).fault
  highResolution : (fresh.run calls).highResolutionStatus.toInt =
    if ((Machine.initial .standard false).serveAll calls).screen.resolution = .high then 1 else 0
  display : (fresh.run calls).display? =
    some ((Machine.initial .standard false).serveAll calls).screen.pixels
  accepted : ∀ buffer, ((fresh.run calls).perform (.load buffer)).status = some 0 ↔
    (HandleCall.load buffer).starts = true
  failed : (fresh.run calls).faultStatus ≠ 0 ↔
    ∃ status, status ≠ 0 ∧ fresh.FailedWith calls status
  /-- A host that watches what its calls return knows the fault on record. -/
  recorded : ∀ status, status ≠ 0 →
    ((fresh.run calls).faultStatus = status ↔ fresh.FailedWith calls status)
  nullReplies : trace none calls = calls.map fun call => (none, call.nullNumber)
  nullQueries : faultStatus none = -1 ∧ highResolutionStatus none = 0 ∧ display? none = none

/-- Whatever a host calls, it is served as by the methods of the machine. -/
theorem run_refines (calls : List HandleCall) : Refines calls := by
  have reached : fresh.run calls = some ((Machine.initial .standard false).serveAll calls) :=
    run_serveAll _ calls
  have record : ∀ status, status ≠ 0 →
      ((fresh.run calls).faultStatus = status ↔ fresh.FailedWith calls status) :=
    fun _ nonzero => faultStatus_run _ rfl calls nonzero
  refine ⟨trace_services _ calls, reached, ?_, ?_, congrArg display? reached, ?_, ?_, record,
    trace_null calls, rfl, rfl, rfl⟩
  · rw [reached]
    exact Service.toInt_status _
  · rw [reached, highResolutionStatus]
    split <;> rfl
  · intro buffer
    rw [reached]
    exact status_load_eq_zero_iff _ buffer
  · constructor
    · intro nonzero
      exact ⟨_, nonzero, (record _ nonzero).mp rfl⟩
    · rintro ⟨status, nonzero, failed⟩
      rwa [(record status nonzero).mpr failed]

end Handle

end Chip8
