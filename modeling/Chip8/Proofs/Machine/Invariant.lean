import Chip8.Proofs.Machine.Refusal
import Chip8.Proofs.Machine.Reset
import Chip8.Proofs.Machine.Run
import Chip8.Proofs.Screen.StorageInvariant

/-! What holds of every machine that a host can bring about, by whatever calls
and in whatever order. -/
namespace Chip8

theorem Memory.read_of_lt (memory : Memory) {address : Nat} (inside : address < memorySize) :
    memory.read (.ofNat address) = .ok memory.cells[address] := by
  have word : (UInt64.ofNat address).toNat = address :=
    UInt64.toNat_ofNat_of_lt' (Nat.lt_trans inside (by decide))
  simp [read, word, inside]

theorem Key.ofCode_mod (byte : UInt8) : Key.ofCode (byte % 16) = .ok (Key.ofByte byte) := by
  have low : (byte % 16).toNat = byte.toNat % 16 := by rw [UInt8.toNat_mod]; rfl
  have known : (byte % 16).toNat < 16 := by omega
  rw [ofCode, dif_pos known]
  exact congrArg Except.ok (Fin.ext low)

namespace Machine

/-- The part of the invariant that no type carries. -/
structure Sound (machine : Machine) : Prop where
  screen : machine.screen.Sound
  depth : machine.stack.length ≤ stackDepth
  fault : ∀ reason, machine.fault = some reason → reason.OfInstruction

theorem Sound.initial (mode : Mode) (clipsSprites : Bool) : (initial mode clipsSprites).Sound where
  screen := .blank mode.resolution
  depth := Nat.zero_le _
  fault _ found := nomatch found

theorem Sound.course {machine : Machine} (sound : machine.Sound) (course : machine.Course made) :
    made.machine.Sound := by
  cases course with
  | next kept =>
    refine ⟨?_, kept.stack ▸ sound.depth, kept.fault ▸ sound.fault⟩
    rcases kept.screen with same | ⟨call, drawn⟩
    · exact same ▸ sound.screen
    · exact drawn ▸ sound.screen.perform call
  | skip => exact sound
  | stay => exact { sound with }
  | jump => exact sound
  | call room => exact { sound with depth := room }
  | ret opened past =>
    have depth := sound.depth
    rw [opened] at depth
    exact { sound with depth := Nat.le_of_succ_le depth }

theorem Sound.execute {machine : Machine} (sound : machine.Sound) (random : UInt8)
    (instruction : Instruction) : (machine.execute random instruction).machine.Sound := by
  apply execute_keeps Machine.Sound sound
  · intro made course
    exact sound.course course
  · intro reached kept counter
    exact { kept with }

theorem Sound.deliverKey {machine : Machine} (sound : machine.Sound) (x : Register) :
    (machine.deliverKey x).Sound := by
  unfold Machine.deliverKey
  split
  · exact sound
  · exact { sound with }

theorem Sound.step {machine : Machine} (sound : machine.Sound) (random : UInt8) :
    (machine.step random).machine.Sound := by
  have executed := sound.execute random machine.currentInstruction
  cases result : (machine.execute random machine.currentInstruction).failure with
  | none =>
    rw [(step_of_success result).2]
    exact executed
  | some reason =>
    rw [(step_of_failure result).2]
    refine { executed with fault := ?_ }
    intro recorded found
    cases found
    exact failure_ofInstruction result

theorem Sound.cycle {machine : Machine} (sound : machine.Sound) (random : UInt8) :
    (machine.cycle random).machine.Sound := by
  unfold Machine.cycle
  split
  · exact sound
  · split
    · exact sound.deliverKey _
    · exact sound.step random

theorem Sound.restart {machine : Machine} : machine.restart.Sound where
  screen := .blank machine.mode.resolution
  depth := Nat.zero_le _
  fault _ found := nomatch found

/-- Each single call keeps the invariant. -/
theorem Sound.perform {machine : Machine} (sound : machine.Sound) (call : Call) :
    (machine.perform call).machine.Sound := by
  by_cases resets : call.resets = true
  · obtain ⟨loaded, same⟩ := machine.perform_of_resets resets
    rw [same]
    exact .restart
  · have kept : call.resets = false := eq_false_of_ne_true resets
    cases call with
    | load bytes =>
      rw [machine.load_of_not_resets kept]
      exact sound
    | loadFrom source =>
      rw [machine.loadFrom_of_not_resets kept]
      exact sound
    | reload => cases kept
    | togglePause => exact { sound with }
    | setMode mode => exact { sound with screen := .blank mode.resolution }
    | setDialect dialect => exact { sound with }
    | cycle random => exact sound.cycle random
    | execute random instruction => exact sound.execute random instruction
    | tick => exact { sound with }
    | press code => exact machine.perform_key_keeps .press Machine.Sound (fun _ => { sound with }) code
    | release code =>
      exact machine.perform_key_keeps .release Machine.Sound (fun _ => { sound with }) code
    | takeUpdated => exact { sound with screen := sound.screen.mark false }
    | setRegister x value => exact { sound with }
    | setIndex value => exact { sound with }
    | setDelay value => exact { sound with }
    | setSound value => exact { sound with }
    | screen call => exact { sound with screen := sound.screen.perform call }
    | memory call => exact { sound with }
    | keypad call => exact { sound with }

theorem Sound.run {machine : Machine} (sound : machine.Sound) (calls : List Call) :
    (machine.run calls).Sound :=
  run_keeps Machine.Sound sound fun call _ _ kept => kept.perform call

theorem currentOpcode_eq (machine : Machine) :
    ∃ high low, machine.memory.read (.ofNat machine.counter.toNat) = .ok high ∧
      machine.memory.read (.ofNat (machine.counter.toNat + 1)) = .ok low ∧
      machine.currentOpcode = .ofBytes high low := by
  have first : machine.counter.toNat < 0x1000 := machine.counter.inMemory
  have even := machine.counter.even
  have second : machine.counter.toNat + 1 < 0x1000 := by omega
  exact ⟨_, _, Memory.read_of_lt _ first, Memory.read_of_lt _ second, rfl⟩

theorem writeSlice_program (program : Program) :
    Memory.blank.writeSlice (.ofNat programStart) program.bytes = .ok (.withProgram program) := by
  have size : program.bytes.length ≤ 0xE00 := program.fits
  have fits : 0x200 + program.bytes.length ≤ 0x1000 := by omega
  exact Memory.writeSlice_of_le Memory.blank (.ofNat programStart) fits

/-- What a host may rely on, and what the machine itself relies on without
checking it again. -/
structure Intact (machine : Machine) : Prop where
  even : machine.counter.toNat % 2 = 0
  last : machine.counter.toNat ≤ 0xFFE
  /-- Both bytes of the opcode lie inside of memory. -/
  fetch : ∃ high low, machine.memory.read (.ofNat machine.counter.toNat) = .ok high ∧
    machine.memory.read (.ofNat (machine.counter.toNat + 1)) = .ok low ∧
    machine.currentOpcode = .ofBytes high low
  /-- A restart writes the program where it is allowed to write. -/
  installs : Memory.blank.writeSlice (.ofNat programStart) machine.program.bytes =
    .ok machine.restart.memory
  starts : (Address.ofWord (.ofNat programStart) >>= Address.aligned) = .ok machine.restart.counter
  keys : ∀ x, Key.ofCode (machine.register x % 16) = .ok (Key.ofByte (machine.register x))
  depth : machine.stack.length ≤ stackDepth
  callers : ∀ caller ∈ machine.stack, caller.toNat % 2 = 0 ∧ caller.toNat < memorySize
  program : machine.program.bytes.length ≤ programCapacity
  storage : machine.screen.cells.toArray.size = 128 * 64
  binary : ∀ position (_ : position < screenCapacity),
    machine.screen.cells[position] = 0 ∨ machine.screen.cells[position] = 1
  dark : ∀ position (_ : position < screenCapacity),
    machine.screen.width * machine.screen.height ≤ position → machine.screen.cells[position] = 0
  fault : ∀ reason, machine.fault = some reason → reason.OfInstruction

/-- No calls in any order bring about a machine that is not intact. -/
theorem run_intact (mode : Mode) (clipsSprites : Bool) (calls : List Call) :
    ((initial mode clipsSprites).run calls).Intact := by
  generalize reached : (initial mode clipsSprites).run calls = machine
  have sound : machine.Sound := reached ▸ (Sound.initial mode clipsSprites).run calls
  have inside : machine.counter.toNat < 0x1000 := machine.counter.inMemory
  have even : machine.counter.toNat % 2 = 0 := machine.counter.even
  exact {
    even
    last := by omega
    fetch := machine.currentOpcode_eq
    installs := writeSlice_program machine.program
    starts := rfl
    keys := fun x => Key.ofCode_mod (machine.register x)
    depth := sound.depth
    callers := fun caller _ => ⟨caller.even, caller.inMemory⟩
    program := machine.program.fits
    storage := machine.screen.cells.size_toArray
    binary := fun position stored => by
      rw [← Screen.cell_eq_getElem _ stored]
      exact sound.screen.binary position
    dark := fun position stored outside => by
      rw [← Screen.cell_eq_getElem _ stored]
      exact sound.screen.dark position outside
    fault := sound.fault }

end Machine

end Chip8
