import Chip8.Proofs.Machine.Loading

/-! Programs that come piece by piece. Only the bytes of a source count and whether it
fails before there are too many of them, not the pieces in which it is read. -/
namespace Chip8

/-- How a source may be read while there is room: the bytes that were received, and the
failure that ended it. Each read brings one or more of the bytes that are left; a source
is not read again once the room is used up. -/
inductive Source.Reads : Source → (room : Nat) → List UInt8 → Option String → Prop where
  | full {source : Source} : Reads source 0 [] none
  | ended {failure : Option String} {room : Nat} : Reads ⟨[], failure⟩ (room + 1) [] failure
  | piece {piece left received : List UInt8} {failure outcome : Option String} {room : Nat}
      (nonempty : piece ≠ []) (fits : piece.length ≤ room)
      (further : Reads ⟨left, failure⟩ (room - piece.length) received outcome) :
      Reads ⟨piece ++ left, failure⟩ room (piece ++ received) outcome

namespace Source

variable {source : Source} {room : Nat} {received : List UInt8} {outcome : Option String}

/-- Every source can be read, if need be one byte at a time. -/
theorem exists_reads (bytes : List UInt8) (failure : Option String) (room : Nat) :
    ∃ received outcome, Source.Reads ⟨bytes, failure⟩ room received outcome := by
  induction bytes generalizing room with
  | nil =>
    cases room with
    | zero => exact ⟨[], none, .full⟩
    | succ room => exact ⟨[], failure, .ended⟩
  | cons byte left ih =>
    cases room with
    | zero => exact ⟨[], none, .full⟩
    | succ room =>
      obtain ⟨received, outcome, further⟩ := ih room
      exact ⟨[byte] ++ received, outcome,
        .piece (List.cons_ne_nil byte []) (Nat.le_add_left 1 room) further⟩

/-- Whatever the pieces, they make up the bytes there is room for. -/
theorem Reads.received_eq (reads : source.Reads room received outcome) :
    received = source.bytes.take room := by
  induction reads with
  | full => rfl
  | ended => rfl
  | piece nonempty fits further ih =>
    rw [List.take_append, List.take_of_length_le fits, ih]

/-- A failure is noticed while there is room left, and never after that. -/
theorem Reads.outcome_eq (reads : source.Reads room received outcome) :
    outcome = if source.bytes.length < room then source.failure else none := by
  induction reads with
  | full => rfl
  | ended => exact (if_pos (Nat.succ_pos _)).symm
  | @piece piece left _ _ _ room nonempty fits further ih =>
    have more : left.length < room - piece.length ↔ (piece ++ left).length < room := by
      rw [List.length_append]
      omega
    rw [ih]
    simp only [more]

end Source

namespace Machine

/-- Loads what was received from a source, unless the source failed. -/
def loadReceived (machine : Machine) (received : List UInt8) :
    Option String → Except LoadError Machine
  | some cause => .error (.unreadable cause)
  | none => (machine.load received).mapError .rejected

theorem loadReceived_of_reads (machine : Machine) {source : Source} {received : List UInt8}
    {outcome : Option String} (reads : source.Reads (programCapacity + 1) received outcome) :
    machine.loadReceived received outcome = machine.loadFrom source := by
  have short : (source.bytes.take (programCapacity + 1)).length ≤ programCapacity ↔
      source.bytes.length < programCapacity + 1 := by
    rw [List.length_take]
    omega
  rw [reads.received_eq, reads.outcome_eq, loadFrom]
  cases source.failure with
  | none => rw [ite_self, loadReceived]
  | some cause =>
    by_cases fits : source.bytes.length < programCapacity + 1
    · simp only [if_pos fits, if_pos (short.mpr fits), loadReceived]
    · simp only [if_neg fits, if_neg (mt short.mp fits), loadReceived]

/-- How a machine takes a program from a source, in whatever pieces it comes. -/
structure LoadsFrom (machine : Machine) (source : Source) : Prop where
  reads : ∃ received outcome, source.Reads (programCapacity + 1) received outcome
  pieces : ∀ received outcome, source.Reads (programCapacity + 1) received outcome →
    machine.loadReceived received outcome = machine.loadFrom source
  fits : source.bytes.length ≤ programCapacity → source.failure = none →
    machine.perform (.loadFrom source) = machine.perform (.load source.bytes)
  fails : ∀ cause, source.bytes.length ≤ programCapacity → source.failure = some cause →
    machine.loadFrom source = .error (.unreadable cause) ∧
    (LoadError.unreadable cause).message = "could not read program data" ∧
    machine.perform (.loadFrom source) = ⟨machine, .unreadable cause, []⟩
  refuses : programCapacity < source.bytes.length →
    machine.loadFrom source = .error (.rejected (.programTooLarge (programCapacity + 1))) ∧
    machine.perform (.loadFrom source) =
      ⟨machine, .failed (.programTooLarge (programCapacity + 1)), []⟩

theorem perform_loadFrom_of_error {machine : Machine} {source : Source} {error : LoadError}
    (failed : machine.loadFrom source = .error error) :
    machine.perform (.loadFrom source) = ⟨machine, .ofLoadError error, []⟩ := by
  simp only [perform, failed]
  rfl

/-- Loading from a source is loading its bytes; a failure counts only before them all. -/
theorem loads_from_exactly (machine : Machine) (source : Source) : machine.LoadsFrom source := by
  refine ⟨Source.exists_reads source.bytes source.failure _,
    fun _ _ => machine.loadReceived_of_reads, ?_, ?_, ?_⟩
  · intro fits ended
    rw [machine.perform_load_of_le fits]
    simp only [perform, machine.loadFrom_of_le fits ended]
    rfl
  · intro cause fits failed
    have unreadable := machine.loadFrom_of_failure fits failed
    exact ⟨unreadable, rfl, perform_loadFrom_of_error unreadable⟩
  · intro large
    have refused := machine.loadFrom_of_lt large
    exact ⟨refused, perform_loadFrom_of_error refused⟩

end Machine

end Chip8
