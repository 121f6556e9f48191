import Chip8.Proofs.Machine.Independence
import Chip8.Proofs.Machine.Reporting

/-! Cycles and ticks of the timers take no notice of each other, as long as no cycle
executes an instruction for the timers. How they interleave does not matter then. -/
namespace Chip8

/-- Cycles with the given random bytes, in their order, and a number of ticks among them. -/
inductive Call.Interleaves : List UInt8 → Nat → List Call → Prop where
  | nil : Interleaves [] 0 []
  | cycle (rest : Interleaves bytes ticks calls) :
      Interleaves (random :: bytes) ticks (.cycle random :: calls)
  | tick (rest : Interleaves bytes ticks calls) : Interleaves bytes (ticks + 1) (.tick :: calls)

/-- The timers after a number of ticks. -/
def Timers.after (timers : Timers) : Nat → Timers
  | 0 => timers
  | ticks + 1 => timers.tick.after ticks

theorem Timers.toNat_after (timers : Timers) (ticks : Nat) :
    (timers.after ticks).delay.toNat = timers.delay.toNat - ticks ∧
      (timers.after ticks).sound.toNat = timers.sound.toNat - ticks := by
  induction ticks generalizing timers with
  | zero => exact ⟨rfl, rfl⟩
  | succ ticks ih =>
    have delay : timers.tick.delay.toNat = timers.delay.toNat - 1 := toNat_countDown timers.delay
    have sound : timers.tick.sound.toNat = timers.sound.toNat - 1 := toNat_countDown timers.sound
    obtain ⟨laterDelay, laterSound⟩ := ih timers.tick
    rw [after, laterDelay, laterSound, delay, sound]
    omega

/-- What can be seen of one cycle. -/
structure Beat where
  executed : Option Instruction
  failure : Option Fault

/-- The cycle executes an instruction for the timers. -/
def Beat.isTimed (beat : Beat) : Bool := beat.executed.any Instruction.isTimed

namespace Machine

def beat (machine : Machine) (random : UInt8) : Beat :=
  ⟨machine.executed? (.cycle random), (machine.cycle random).failure⟩

/-- What can be seen of the cycles of a run, in their order. -/
def beats (machine : Machine) : List Call → List Beat
  | [] => []
  | .cycle random :: rest => machine.beat random :: (machine.cycle random).machine.beats rest
  | call :: rest => (machine.perform call).machine.beats rest

/-- No cycle of a run executes an instruction for the timers. -/
def Untimed (machine : Machine) (calls : List Call) : Prop :=
  ∀ beat ∈ machine.beats calls, beat.isTimed = false

def withTimers (machine : Machine) (timers : Timers) : Machine :=
  machine.shift { timers := fun _ => timers }

variable {machine : Machine} {bytes : List UInt8}

theorem cycle_withTimers (timers : Timers) (untimed : (machine.beat random).isTimed = false) :
    (machine.withTimers timers).cycle random =
      (machine.cycle random).shift { timers := fun _ => timers } := by
  apply machine.cycle_shift _ random rfl
  intro moving running
  refine ⟨rfl, .inr ?_⟩
  rw [Beat.isTimed, beat, executed_of_running moving running] at untimed
  exact untimed

theorem timers_cycle (untimed : (machine.beat random).isTimed = false) :
    (machine.cycle random).machine.timers = machine.timers :=
  congrArg (fun outcome => outcome.machine.timers) (cycle_withTimers machine.timers untimed)

theorem beat_withTimers (timers : Timers) (untimed : (machine.beat random).isTimed = false) :
    (machine.withTimers timers).beat random = machine.beat random := by
  simp only [beat, cycle_withTimers timers untimed]
  rfl

theorem untimed_cycle : machine.Untimed (.cycle random :: calls) ↔
    (machine.beat random).isTimed = false ∧ (machine.cycle random).machine.Untimed calls :=
  List.forall_mem_cons

/-- The timers make no difference to cycles alone. -/
theorem cycles_withTimers (timers : Timers) (untimed : machine.Untimed (bytes.map .cycle)) :
    (machine.withTimers timers).beats (bytes.map .cycle) = machine.beats (bytes.map .cycle) ∧
      (machine.withTimers timers).run (bytes.map .cycle) =
        (machine.run (bytes.map .cycle)).withTimers timers := by
  induction bytes generalizing machine with
  | nil => exact ⟨rfl, rfl⟩
  | cons random bytes ih =>
    obtain ⟨first, rest⟩ := untimed_cycle.mp untimed
    have next : ((machine.withTimers timers).cycle random).machine =
        (machine.cycle random).machine.withTimers timers :=
      congrArg Outcome.machine (cycle_withTimers timers first)
    obtain ⟨beats, run⟩ := ih rest
    constructor
    · simp only [List.map_cons, Machine.beats, beat_withTimers timers first, next, beats]
    · change ((machine.withTimers timers).cycle random).machine.run (bytes.map .cycle) = _
      rw [next, run]
      rfl

theorem untimed_withTimers (timers : Timers) :
    (machine.withTimers timers).Untimed (bytes.map .cycle) ↔ machine.Untimed (bytes.map .cycle) := by
  constructor
  · intro untimed
    have beats := (cycles_withTimers machine.timers untimed).1
    unfold Untimed at untimed
    rw [← beats] at untimed
    exact untimed
  · intro untimed
    unfold Untimed
    rw [(cycles_withTimers timers untimed).1]
    exact untimed

end Machine

namespace Call.Interleaves

variable {bytes : List UInt8} {ticks : Nat} {calls : List Call}

/-- Ticks among the cycles do not change what the cycles execute. -/
theorem untimed_iff (interleaved : Interleaves bytes ticks calls) (start : Machine) :
    start.Untimed calls ↔ start.Untimed (bytes.map .cycle) := by
  induction interleaved generalizing start with
  | nil => rfl
  | cycle rest ih =>
    rw [List.map_cons, Machine.untimed_cycle, Machine.untimed_cycle, ih]
  | tick rest ih =>
    exact (ih start.tick).trans (Machine.untimed_withTimers start.timers.tick)

theorem beats_eq (interleaved : Interleaves bytes ticks calls) {start : Machine}
    (untimed : start.Untimed (bytes.map .cycle)) :
    start.beats calls = start.beats (bytes.map .cycle) := by
  induction interleaved generalizing start with
  | nil => rfl
  | cycle rest ih =>
    obtain ⟨_, later⟩ := Machine.untimed_cycle.mp untimed
    exact congrArg (_ :: ·) (ih later)
  | tick rest ih =>
    have ticked := (Machine.untimed_withTimers start.timers.tick).mpr untimed
    exact (ih ticked).trans (Machine.cycles_withTimers start.timers.tick untimed).1

/-- Cycles and ticks lead to where the cycles lead alone, and the ticks to the timers. -/
theorem run_eq (interleaved : Interleaves bytes ticks calls) {start : Machine}
    (untimed : start.Untimed (bytes.map .cycle)) :
    start.run calls = (start.run (bytes.map .cycle)).withTimers (start.timers.after ticks) := by
  induction interleaved generalizing start with
  | nil => rfl
  | cycle rest ih =>
    obtain ⟨first, later⟩ := Machine.untimed_cycle.mp untimed
    have reached := ih later
    rw [Machine.timers_cycle first] at reached
    exact reached
  | tick rest ih =>
    have ticked := (Machine.untimed_withTimers start.timers.tick).mpr untimed
    have reached := ih ticked
    rw [(Machine.cycles_withTimers start.timers.tick untimed).2] at reached
    exact reached

end Call.Interleaves

namespace Machine

/-- Two runs with the same cycles and the same number of ticks. -/
structure RunsAlike (start : Machine) (ticks : Nat) (first second : List Call) : Prop where
  untimed : start.Untimed second
  beats : start.beats second = start.beats first
  final : start.run second = start.run first
  delay : (start.run first).timers.delay.toNat = start.timers.delay.toNat - ticks
  sound : (start.run first).timers.sound.toNat = start.timers.sound.toNat - ticks
  tick : start.perform .tick = .done { start with timers := start.timers.after 1 }

/-- Where no cycle concerns the timers, it makes no difference when the ticks come. -/
theorem interleavings_runAlike {start : Machine} {bytes : List UInt8} {first second : List Call}
    (one : Call.Interleaves bytes ticks first) (other : Call.Interleaves bytes ticks second)
    (untimed : start.Untimed first) : start.RunsAlike ticks first second := by
  have alone := (one.untimed_iff start).mp untimed
  have ran := one.run_eq alone
  have timers : (start.run first).timers = start.timers.after ticks := congrArg Machine.timers ran
  exact {
    untimed := (other.untimed_iff start).mpr alone
    beats := (other.beats_eq alone).trans (one.beats_eq alone).symm
    final := (other.run_eq alone).trans ran.symm
    delay := timers ▸ (start.timers.toNat_after ticks).1
    sound := timers ▸ (start.timers.toNat_after ticks).2
    tick := rfl }

/-- A program that jumps to itself does so whether the timers run out early or late. -/
theorem looping_program_runsAlike :
    let start := (initial .standard false).run [.load [0x12, 0x00], .setDelay 1, .setSound 3]
    start.RunsAlike 2 [.tick, .cycle 7, .tick, .cycle 8] [.cycle 7, .cycle 8, .tick, .tick] := by
  intro start
  let program : Program := ⟨[0x12, 0x00], by decide⟩
  have loaded : start = (((initial .standard false).install program).setDelay 1).setSound 3 :=
    run_load _ program _
  obtain ⟨memory, plain, moving, running, counter⟩ : start.memory = .withProgram program ∧
      start.mode = .standard ∧ start.stopped = false ∧ start.runState = .running ∧
      start.counter = .start := by
    rw [loaded]
    exact ⟨rfl, rfl, rfl, rfl, rfl⟩
  clear_value start
  have place : start.counter.toNat = programStart + 0 := by
    rw [counter]
    rfl
  have fetched : start.currentOpcode = .ofBytes 0x12 0x00 :=
    currentOpcode_of_program memory place (by decide)
  have decoded : start.currentInstruction = .jump ⟨0x200, by decide⟩ := by
    rw [currentInstruction, fetched, plain]
    rfl
  have looped : ∀ random, start.execute random (.jump ⟨0x200, by decide⟩) = ⟨start, none, []⟩ := by
    intro random
    have done : start.effect random (.jump ⟨0x200, by decide⟩) = .ok (.goTo start .start) := rfl
    rw [execute_of_moved done rfl, ← counter]
    rfl
  have again : ∀ random, start.executed? (.cycle random) = some (.jump ⟨0x200, by decide⟩) ∧
      (start.cycle random).machine = start := by
    intro random
    obtain ⟨executed, reached, _⟩ := cycle_of_fetched moving running decoded (looped random)
    exact ⟨executed, reached⟩
  have plainBeat : ∀ random, (start.beat random).isTimed = false := by
    intro random
    rw [Beat.isTimed, beat, (again random).1]
    rfl
  have untimed : start.Untimed ([7, 8].map .cycle) := by
    refine untimed_cycle.mpr ⟨plainBeat 7, ?_⟩
    rw [(again 7).2]
    refine untimed_cycle.mpr ⟨plainBeat 8, ?_⟩
    exact nofun
  have one : Call.Interleaves [7, 8] 2 [.tick, .cycle 7, .tick, .cycle 8] :=
    .tick (.cycle (.tick (.cycle .nil)))
  have other : Call.Interleaves [7, 8] 2 [.cycle 7, .cycle 8, .tick, .tick] :=
    .cycle (.cycle (.tick (.tick .nil)))
  exact interleavings_runAlike one other ((one.untimed_iff start).mpr untimed)

end Machine

end Chip8
