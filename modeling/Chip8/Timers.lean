/-! The two timers, which the host counts down sixty times a second. -/
namespace Chip8

structure Timers where
  delay : UInt8
  sound : UInt8
deriving DecidableEq

namespace Timers

def zero : Timers := ⟨0, 0⟩

/-- One less, but never below zero. -/
def countDown (value : UInt8) : UInt8 := if value = 0 then 0 else value - 1

def tick (timers : Timers) : Timers := ⟨countDown timers.delay, countDown timers.sound⟩

theorem toNat_countDown (value : UInt8) : (countDown value).toNat = value.toNat - 1 := by
  unfold countDown
  split
  · rename_i stopped
    subst stopped
    rfl
  · rename_i running
    have positive : value.toNat ≠ 0 := fun zero => running (UInt8.toNat_inj.mp zero)
    have bound := value.toNat_lt
    rw [UInt8.toNat_sub]
    simp
    omega

/-- The buzzer sounds while its timer runs. -/
def toneActive (timers : Timers) : Bool := decide (0 < timers.sound)

end Timers

end Chip8
