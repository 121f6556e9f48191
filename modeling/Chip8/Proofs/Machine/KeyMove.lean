import Chip8.Host.Call

/-! Keys that a host presses and releases. Both calls look for the key with a code and fail
where there is none; what they do to the key is all that they differ in. -/
namespace Chip8

namespace Key

theorem ofCode_of_lt {code : UInt8} (known : code.toNat < 16) :
    ofCode code = .ok ⟨code.toNat, known⟩ := dif_pos known

theorem ofCode_of_le {code : UInt8} (unknown : 16 ≤ code.toNat) :
    ofCode code = .error (.invalidKeyCode code) := dif_neg (Nat.not_lt.mpr unknown)

end Key

inductive KeyMove where
  | press
  | release

namespace KeyMove

def call : KeyMove → UInt8 → Call
  | press => .press
  | release => .release

def act : KeyMove → Keypad → Key → Keypad
  | press => Keypad.press
  | release => Keypad.release

/-- Whether the key is held after the move. -/
def holds : KeyMove → Bool
  | press => true
  | release => false

/-- A move settles the one key and leaves the others alone. -/
theorem isHeld_act (move : KeyMove) (keypad : Keypad) (key other : Key) :
    (move.act keypad key).isHeld other = if key = other then move.holds else keypad.isHeld other := by
  cases move with
  | press =>
    refine (keypad.isHeld_press key other).trans ?_
    by_cases same : key = other
    · simp [holds, same]
    · simp [same, Ne.symm same]
  | release =>
    refine (keypad.isHeld_release key other).trans ?_
    by_cases same : key = other
    · simp [holds, same]
    · simp [same, Ne.symm same]

end KeyMove

namespace Machine

variable (machine : Machine) (move : KeyMove)

theorem perform_key (code : UInt8) :
    machine.perform (move.call code) = .ofChange machine (do
      let key ← Key.ofCode code
      return { machine with keypad := move.act machine.keypad key }) := by
  cases move with
  | press => rfl
  | release => rfl

theorem perform_key_of_ok (known : Key.ofCode code = .ok key) :
    machine.perform (move.call code) =
      .done { machine with keypad := move.act machine.keypad key } := by
  rw [machine.perform_key move, known]
  rfl

theorem perform_key_of_error (unknown : Key.ofCode code = .error reason) :
    machine.perform (move.call code) = .quiet machine (.failed reason) := by
  rw [machine.perform_key move, unknown]
  rfl

/-- A host that moves keys changes the keypad and nothing else. -/
theorem perform_key_keeps (holds : Machine → Prop) (kept : ∀ keypad, holds { machine with keypad })
    (code : UInt8) : holds (machine.perform (move.call code)).machine := by
  cases named : Key.ofCode code with
  | ok key =>
    rw [machine.perform_key_of_ok move named]
    exact kept _
  | error reason =>
    rw [machine.perform_key_of_error move named]
    exact kept machine.keypad

end Machine

end Chip8
