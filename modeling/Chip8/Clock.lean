/-! A clock that tells hosts how many frames have passed. It is given the time
and never looks it up. -/
namespace Chip8

structure Clock where
  enabled : Bool
  /-- Ticks a second. -/
  frequency : UInt32
  /-- The count of ticks at the last reading, modulo `2 ^ 32`. -/
  ticks : UInt32

namespace Clock

/-- The count of ticks at a time in nanoseconds. -/
def ticksAt (frequency : UInt32) (nanoseconds : UInt64) : UInt32 :=
  (nanoseconds.toFloat * frequency.toNat.toFloat / 1e9).toUInt64.toUInt32

def startedAt (frequency : UInt32) (nanoseconds : UInt64) : Clock :=
  ⟨true, frequency, ticksAt frequency nanoseconds⟩

def disabled (frequency : UInt32) : Clock := ⟨false, frequency, 0⟩

/-- The ticks since the last reading; a disabled clock stands still. -/
def lap (clock : Clock) (nanoseconds : UInt64) : UInt32 × Clock :=
  if clock.enabled then
    let ticks := ticksAt clock.frequency nanoseconds
    (ticks - clock.ticks, { clock with ticks })
  else (0, clock)

end Clock

end Chip8
