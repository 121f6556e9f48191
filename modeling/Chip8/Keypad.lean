import Chip8.Fault

/-! The sixteen keys. Besides the keys that are held the keypad remembers which
keys went down since someone last asked. -/
namespace Chip8

abbrev Key := Fin 16

namespace Key

/-- The key numbered by the low four bits. -/
def ofByte (byte : UInt8) : Key := ⟨byte.toNat % 16, Nat.mod_lt _ (Nat.succ_pos 15)⟩

def ofCode (code : UInt8) : Except Fault Key :=
  if known : code.toNat < 16 then .ok ⟨code.toNat, known⟩
  else .error (.invalidKeyCode code)

end Key

structure Keypad where
  held : Vector Bool 16
  pending : Vector Bool 16
deriving DecidableEq

namespace Keypad

def released : Keypad := ⟨Vector.replicate 16 false, Vector.replicate 16 false⟩

def isHeld (keypad : Keypad) (key : Key) : Bool := keypad.held[key]

/-- The key went down since someone last asked. -/
def isPending (keypad : Keypad) (key : Key) : Bool := keypad.pending[key]

/-- A key that is held already does not go down again. -/
def press (keypad : Keypad) (key : Key) : Keypad where
  held := keypad.held.set key true
  pending := if keypad.isHeld key then keypad.pending else keypad.pending.set key true

def release (keypad : Keypad) (key : Key) : Keypad :=
  { keypad with held := keypad.held.set key false }

def clearPending (keypad : Keypad) : Keypad :=
  { keypad with pending := Vector.replicate 16 false }

/-- The lowest of the keys that went down. -/
def firstPending (keypad : Keypad) : Option Key :=
  (List.finRange 16).find? fun key => keypad.pending[key]

/-- Answers with the lowest key and forgets the others. -/
def takePressed (keypad : Keypad) : Option Key × Keypad :=
  (keypad.firstPending, keypad.clearPending)

theorem isHeld_press (keypad : Keypad) (key other : Key) :
    (keypad.press key).isHeld other = (decide (other = key) || keypad.isHeld other) := by
  by_cases same : other = key
  · simp [press, isHeld, same]
  · have apart : key.val ≠ other.val := fun equal => same (Fin.ext equal.symm)
    simp [press, isHeld, same, apart]

theorem isHeld_release (keypad : Keypad) (key other : Key) :
    (keypad.release key).isHeld other = (decide (other ≠ key) && keypad.isHeld other) := by
  by_cases same : other = key
  · simp [release, isHeld, same]
  · have apart : key.val ≠ other.val := fun equal => same (Fin.ext equal.symm)
    simp [release, isHeld, same, apart]

theorem isPending_press (keypad : Keypad) (key other : Key) :
    (keypad.press key).isPending other =
      (keypad.isPending other || (decide (other = key) && !keypad.isHeld key)) := by
  cases held : keypad.isHeld key with
  | true => simp [isPending, press, held]
  | false =>
    by_cases same : other = key
    · simp [isPending, press, held, same]
    · have apart : key.val ≠ other.val := fun equal => same (Fin.ext equal.symm)
      simp [isPending, press, held, same, apart]

theorem isPending_clearPending (keypad : Keypad) (key : Key) :
    keypad.clearPending.isPending key = false := by
  simp [isPending, clearPending]

/-- In ascending order. -/
def heldKeys (keypad : Keypad) : List Key := (List.finRange 16).filter keypad.isHeld

end Keypad

end Chip8
