import Chip8.Proofs.Instruction.RoundTrip
import Chip8.Proofs.Machine.Conservation
import Chip8.Proofs.Machine.Flags

/-! Standard mode keeps out of the reach of programs what only extended mode has: the
larger screen, the flags and an end that a program brings about itself. -/
namespace Chip8.Machine

variable {machine : Machine}

/-- What nothing but instructions of the extension changes. -/
structure SameExtension (before after : Machine) : Prop where
  resolution : after.screen.resolution = before.screen.resolution
  flags : after.flags = before.flags
  halted : after.halted = before.halted

theorem isExtension_of_executed (plain : machine.mode = .standard)
    (executed : machine.executed? (.cycle random) = some instruction) :
    instruction.isExtension = false := by
  obtain ⟨fetched, _⟩ := cycle_of_executed executed
  rw [← fetched, currentInstruction, plain]
  exact machine.currentOpcode.isExtension_decode_standard

/-- In standard mode a cycle changes nothing that only the extension changes. -/
theorem OfEffect.cycle_standard {part : Machine → α} (ofEffect : OfEffect part)
    (delivered : ∀ machine keypad registers runState,
      part { machine with keypad, registers, runState } = part machine)
    (extension : ∀ {instruction made}, machine.effect random instruction = .ok made →
      part made.machine ≠ part machine → instruction.isExtension = true)
    (plain : machine.mode = .standard) : part (machine.cycle random).machine = part machine := by
  apply Classical.byContradiction
  intro changed
  obtain ⟨instruction, made, executed, done, other⟩ := ofEffect.changed_by_cycle delivered changed
  have known := extension done other
  rw [isExtension_of_executed plain executed] at known
  cases known

theorem sameExtension_cycle (plain : machine.mode = .standard) (random : UInt8) :
    machine.SameExtension (machine.cycle random).machine where
  resolution := by
    have ofEffect : OfEffect fun machine => machine.screen.resolution := {}
    apply ofEffect.cycle_standard (fun _ _ _ _ => rfl) ?_ plain
    intro instruction made done changed
    obtain ⟨resolution, same⟩ := (footprint_of_effect done).resolution changed
    rw [same]
    rfl
  flags := by
    apply flags_ofEffect.cycle_standard (fun _ _ _ _ => rfl) ?_ plain
    intro instruction made done changed
    obtain ⟨last, same⟩ := (footprint_of_effect done).flags changed
    rw [same]
    rfl
  halted := by
    have ofEffect : OfEffect halted := {}
    apply ofEffect.cycle_standard (fun _ _ _ _ => rfl) ?_ plain
    intro instruction made done changed
    rw [(footprint_of_effect done).halted changed]
    rfl

/-- No call that drives a machine leaves it in standard mode with the larger screen. -/
theorem resolution_perform (low : machine.mode = .standard → machine.screen.resolution = .low)
    (drives : Call.drives call = true)
    (plain : (machine.perform call).machine.mode = .standard) :
    (machine.perform call).machine.screen.resolution = .low := by
  by_cases resets : call.resets = true
  · obtain ⟨loaded, same⟩ := machine.perform_of_resets resets
    rw [same] at plain ⊢
    exact congrArg Mode.resolution plain
  · have kept : call.resets = false := eq_false_of_ne_true resets
    cases call with
    | load bytes =>
      rw [machine.load_of_not_resets kept] at plain ⊢
      exact low plain
    | loadFrom source =>
      rw [machine.loadFrom_of_not_resets kept] at plain ⊢
      exact low plain
    | reload => cases kept
    | setMode mode => exact congrArg Mode.resolution plain
    | cycle random =>
      rw [machine.mode_perform rfl] at plain
      exact (sameExtension_cycle plain random).resolution.trans (low plain)
    | press code =>
      exact machine.perform_key_keeps .press
        (fun after => after.mode = .standard → after.screen.resolution = .low) (fun _ => low) code plain
    | release code =>
      exact machine.perform_key_keeps .release
        (fun after => after.mode = .standard → after.screen.resolution = .low) (fun _ => low) code plain
    | togglePause => exact low plain
    | setDialect dialect => exact low plain
    | tick => exact low plain
    | takeUpdated => exact low plain
    | _ => cases drives

/-- How far programs and hosts get with the state of the extension. -/
structure Confined (machine : Machine) : Prop where
  screen : machine.mode = .standard → machine.screen.width = 64 ∧ machine.screen.height = 32
  cycle : machine.mode = .standard → ∀ random, machine.SameExtension (machine.cycle random).machine
  /-- Flags are saved by one family of opcodes only. -/
  flags : ∀ call, call.drives = true → (machine.perform call).machine.flags ≠ machine.flags →
    (∃ random last, call = .cycle random ∧ machine.executed? call = some (.saveFlags last) ∧
      machine.currentOpcode = .ofByte 0xF last 0x75) ∨ ∃ program, call.accepted? = some program
  loaded : ∀ call program, call.accepted? = some program →
    (machine.perform call).machine.flags = .replicate flagCount 0

/-- Whatever a host that drives a machine makes it run, in whatever mode, standard mode
keeps the state of the extension out of reach. -/
theorem run_confined (mode : Mode) (clipsSprites : Bool) {calls : List Call}
    (within : ∀ call ∈ calls, call.drives = true) :
    ((initial mode clipsSprites).run calls).Confined where
  screen := by
    have low : ((initial mode clipsSprites).run calls).mode = .standard →
        ((initial mode clipsSprites).run calls).screen.resolution = .low := by
      apply run_keeps fun reached => reached.mode = .standard → reached.screen.resolution = .low
      · exact congrArg Mode.resolution
      · intro call member reached kept
        exact resolution_perform kept (within call member)
    intro plain
    rw [Screen.width, Screen.height, low plain]
    exact ⟨rfl, rfl⟩
  cycle plain random := sameExtension_cycle plain random
  flags call drives changed := by
    rcases flags_changed changed with ⟨last, executed⟩ | accepted
    · cases call with
      | cycle random =>
        obtain ⟨fetched, _⟩ := cycle_of_executed executed
        exact .inl ⟨random, last, rfl, executed, Opcode.saveFlags_of_decode fetched⟩
      | execute random instruction => cases drives
      | _ => cases executed
    · exact .inr accepted
  loaded call program accepted := by
    rw [perform_of_accepted _ accepted]
    rfl

/-- A program that saves a flag in extended mode goes on in standard mode. -/
theorem saving_program_confined :
    let saving := [.load [0x60, 0x05, 0xF0, 0x75], .cycle 0, .cycle 0, .reload, .setMode .standard]
    let calls := saving ++ [.cycle 0, .press 4, .cycle 0]
    ((initial .extended false).run calls).mode = .standard ∧
      ((initial .extended false).run calls).Confined := by
  intro saving calls
  have switched : ((initial .extended false).run saving).mode = .standard := rfl
  refine ⟨?_, run_confined .extended false (by decide)⟩
  rw [run_append, mode_run _ (by decide), switched]

end Chip8.Machine
