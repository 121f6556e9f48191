import Chip8.Proofs.General
import Chip8.Proofs.Machine.Destination
import Chip8.Proofs.Machine.Footprint
import Chip8.Proofs.Machine.KeyMove
import Chip8.Proofs.Machine.Loading

/-! Held keys. Whether a key is held is a matter of the presses and releases of the host
alone; no program, reset or wait for a key has a part in it. -/
namespace Chip8

/-- Whether a call presses the key, if it presses or releases it. -/
def KeypadCall.pressed? (key : Key) : KeypadCall → Option Bool
  | press other => if other = key then some true else none
  | release other => if other = key then some false else none
  | _ => none

/-- Whether a call presses the key, if it presses or releases it. A code above fifteen is
that of no key. -/
def Call.pressed? (key : Key) : Call → Option Bool
  | press code => if code.toNat = key.val then some true else none
  | release code => if code.toNat = key.val then some false else none
  | keypad call => call.pressed? key
  | _ => none

/-- Of the calls that pressed or released the key the last one pressed it. -/
def Call.LastPressed (key : Key) (calls : List Call) : Prop :=
  (calls.filterMap (Call.pressed? key)).getLast? = some true

instance (key : Key) (calls : List Call) : Decidable (Call.LastPressed key calls) :=
  inferInstanceAs (Decidable ((calls.filterMap (Call.pressed? key)).getLast? = some true))

theorem Keypad.isHeld_perform (keypad : Keypad) (call : KeypadCall) (key : Key) :
    (keypad.perform call).2.isHeld key = (call.pressed? key).getD (keypad.isHeld key) := by
  cases call with
  | press other =>
    exact (KeyMove.press.isHeld_act keypad other key).trans (Option.getD_ite true _).symm
  | release other =>
    exact (KeyMove.release.isHeld_act keypad other key).trans (Option.getD_ite false _).symm
  | takePressed => rfl
  | clearPending => rfl

theorem KeyMove.pressed?_call (move : KeyMove) (code : UInt8) (key : Key) :
    (move.call code).pressed? key = if code.toNat = key.val then some move.holds else none := by
  cases move with
  | press => rfl
  | release => rfl

namespace Machine

theorem held_deliverKey (machine : Machine) (x : Register) :
    (machine.deliverKey x).keypad.held = machine.keypad.held := by
  unfold deliverKey
  split
  · rfl
  · rfl

/-- Neither an instruction nor the end of a wait moves a key. -/
theorem held_cycle (machine : Machine) (random : UInt8) :
    (machine.cycle random).machine.keypad.held = machine.keypad.held := by
  rcases machine.cycle_cases random with ⟨_, same⟩ | ⟨x, _, _, same⟩ | ⟨_, _, same⟩
  · rw [same]
  · rw [same]
    exact machine.held_deliverKey x
  · obtain ⟨fault, stepped⟩ := machine.step_eq random
    rw [same, stepped]
    exact (machine.execute_footprint random machine.currentInstruction).held

theorem held_of_resets (machine : Machine) (resets : Call.resets call = true) :
    (machine.perform call).machine.keypad.held = machine.keypad.held := by
  rcases Call.accepted_of_resets resets with reload | ⟨program, accepted⟩
  · rw [reload]
    rfl
  · rw [machine.perform_of_accepted accepted]
    rfl

/-- To load moves no key, whether the program is accepted or not. -/
theorem held_of_load {machine : Machine}
    (refused : call.resets = false → (machine.perform call).machine = machine) :
    (machine.perform call).machine.keypad.held = machine.keypad.held := by
  cases resets : call.resets with
  | true => exact machine.held_of_resets resets
  | false => rw [refused resets]

theorem isHeld_of_key (machine : Machine) (move : KeyMove) (code : UInt8) (key : Key) :
    (machine.perform (move.call code)).machine.keypad.isHeld key =
      ((move.call code).pressed? key).getD (machine.keypad.isHeld key) := by
  rw [move.pressed?_call, Option.getD_ite]
  by_cases known : code.toNat < 16
  · rw [machine.perform_key_of_ok move (Key.ofCode_of_lt known)]
    refine (move.isHeld_act machine.keypad ⟨code.toNat, known⟩ key).trans ?_
    simp only [Fin.ext_iff]
  · have other : code.toNat ≠ key.val := by omega
    rw [machine.perform_key_of_error move (Key.ofCode_of_le (Nat.not_lt.mp known)), if_neg other]
    rfl

/-- A call leaves a key as it was, or as it moved it. -/
theorem isHeld_perform (key : Key) (machine : Machine) (call : Call) :
    (machine.perform call).machine.keypad.isHeld key =
      (call.pressed? key).getD (machine.keypad.isHeld key) := by
  have kept (held : (machine.perform call).machine.keypad.held = machine.keypad.held)
      (still : call.pressed? key = none) : (machine.perform call).machine.keypad.isHeld key =
        (call.pressed? key).getD (machine.keypad.isHeld key) := by
    rw [still, Keypad.isHeld, held]
    rfl
  cases call with
  | load bytes => exact kept (held_of_load machine.load_of_not_resets) rfl
  | loadFrom source => exact kept (held_of_load machine.loadFrom_of_not_resets) rfl
  | press code => exact machine.isHeld_of_key .press code key
  | release code => exact machine.isHeld_of_key .release code key
  | keypad call => exact machine.keypad.isHeld_perform call key
  | cycle random => exact kept (machine.held_cycle random) rfl
  | execute random instruction =>
    exact kept (machine.execute_footprint random instruction).held rfl
  | _ => exact kept rfl rfl

/-- How the keys of a machine stand after calls on it. -/
structure FollowsHost (machine : Machine) (calls : List Call) : Prop where
  held : ∀ key, machine.keypad.isHeld key = true ↔ Call.LastPressed key calls
  accepts : ∀ code : UInt8, code.toNat < 16 →
    (machine.perform (.press code)).answer = .done ∧ (machine.perform (.release code)).answer = .done
  /-- A code that no key has changes nothing and is no fault of the program. -/
  refuses : ∀ code : UInt8, 16 ≤ code.toNat →
    machine.perform (.press code) = ⟨machine, .failed (.invalidKeyCode code), []⟩ ∧
    machine.perform (.release code) = ⟨machine, .failed (.invalidKeyCode code), []⟩
  /-- Of the two tests of a key always one skips an instruction and the other does not. -/
  skips : ∀ random x (key : Key), key.val = (machine.register x).toNat % 16 →
    (machine.execute random (.skip (.held x))).arrival =
      placeAfter machine.counter.toNat (if Call.LastPressed key calls then 4 else 2) ∧
    (machine.execute random (.skip (.notHeld x))).arrival =
      placeAfter machine.counter.toNat (if Call.LastPressed key calls then 2 else 4)

/-- A key is held exactly when the host pressed it last, whatever ran in between. -/
theorem run_followsHost (mode : Mode) (clipsSprites : Bool) (calls : List Call) :
    ((initial mode clipsSprites).run calls).FollowsHost calls := by
  have held (key : Key) : ((initial mode clipsSprites).run calls).keypad.isHeld key = true ↔
      Call.LastPressed key calls := by
    have released : (initial mode clipsSprites).keypad.isHeld key = false := by
      simp [initial, Keypad.released, Keypad.isHeld]
    rw [run_last (fun machine => machine.keypad.isHeld key) (isHeld_perform key), released,
      Call.LastPressed]
    cases (calls.filterMap (Call.pressed? key)).getLast? with
    | none => simp
    | some pressed => simp
  generalize (initial mode clipsSprites).run calls = machine at held
  refine ⟨held, ?_, ?_, ?_⟩
  · intro code known
    have accepts (move : KeyMove) : (machine.perform (move.call code)).answer = .done := by
      rw [machine.perform_key_of_ok move (Key.ofCode_of_lt known)]
      rfl
    exact ⟨accepts .press, accepts .release⟩
  · intro code unknown
    have refuses (move : KeyMove) := machine.perform_key_of_error move (Key.ofCode_of_le unknown)
    exact ⟨refuses .press, refuses .release⟩
  · intro random x key named
    have same : Key.ofByte (machine.register x) = key := Fin.ext named.symm
    rw [machine.arrival_of_condition random, machine.arrival_of_condition random, destination,
      destination]
    simp only [Meets, same]
    by_cases pressed : Call.LastPressed key calls
    · have down := (held key).mpr pressed
      simp [pressed, down]
    · have up := Bool.eq_false_iff.mpr (mt (held key).mp pressed)
      simp [pressed, up]

/-- A key stays down through a reset and through codes and calls that are not for it. -/
example :
    ((initial .extended false).run
      [.press 3, .reload, .release 0x13, .keypad .takePressed, .release 4]).keypad.isHeld 3 = true := rfl

end Machine

end Chip8
