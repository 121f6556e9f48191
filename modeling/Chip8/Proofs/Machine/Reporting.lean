import Chip8.Proofs.Machine.Reset
import Chip8.Proofs.Machine.Run
import Chip8.Proofs.Screen.Reporting

/-! No change of the screen goes unreported. Whatever runs, the mark of a change
is set with the change, and only a host that asks for it clears it. -/
namespace Chip8.Machine

/-- The call on the screen that an instruction amounts to, if it works on the
screen and is not refused. -/
def paints (machine : Machine) : Instruction → Option ScreenCall
  | .clear => some .clear
  | .scrollDown rows => some (.scrollDown rows.toNat)
  | .scrollRight => some (.scrollRight scrollColumns)
  | .scrollLeft => some (.scrollLeft scrollColumns)
  | .setResolution resolution => some (.setResolution resolution)
  | .draw x y rows =>
    (machine.memory.slice machine.index.toUInt64 rows.toUInt64).toOption.map
      fun bytes => .draw bytes (machine.placement x y)
  | .drawBig x y =>
    (machine.memory.slice machine.index.toUInt64 bigSpriteSize).toOption.map
      fun bytes => .drawBig bytes (machine.placement x y)
  | _ => none

theorem paints_draw {machine : Machine}
    (read : machine.memory.slice machine.index.toUInt64 rows.toUInt64 = .ok bytes) :
    machine.paints (.draw x y rows) = some (.draw bytes (machine.placement x y)) := by
  change (machine.memory.slice machine.index.toUInt64 rows.toUInt64).toOption.map _ = _
  rw [read]
  rfl

theorem paints_drawBig {machine : Machine}
    (read : machine.memory.slice machine.index.toUInt64 bigSpriteSize = .ok bytes) :
    machine.paints (.drawBig x y) = some (.drawBig bytes (machine.placement x y)) := by
  change (machine.memory.slice machine.index.toUInt64 bigSpriteSize).toOption.map _ = _
  rw [read]
  rfl

theorem paints_unshown {machine : Machine} (found : machine.paints instruction = some call)
    (screen : Screen) : screen.shows call = false := by
  cases instruction with
  | clear => cases found; rfl
  | scrollDown rows => cases found; rfl
  | scrollRight => cases found; rfl
  | scrollLeft => cases found; rfl
  | setResolution resolution => cases found; rfl
  | draw x y rows =>
    obtain ⟨bytes, _, same⟩ := Option.map_eq_some_iff.mp found
    cases same
    rfl
  | drawBig x y =>
    obtain ⟨bytes, _, same⟩ := Option.map_eq_some_iff.mp found
    cases same
    rfl
  | _ => cases found

theorem setResult_screen (machine : Machine) (x : Register) (result : UInt8 × Option UInt8) :
    (machine.setResult x result).screen = machine.screen := by
  obtain ⟨value, flag⟩ := result
  cases flag with
  | none => rfl
  | some flag => rfl

theorem advanceIndex_screen (machine : Machine) (length : Nat) :
    (machine.advanceIndex length).screen = machine.screen := by
  unfold advanceIndex
  split
  · rfl
  · rfl

theorem drawSprite_screen (machine : Machine) (sprite : Sprite) (placement : Placement) :
    (machine.drawSprite sprite placement).screen = (machine.screen.draw sprite placement).screen := rfl

/-- The screen after a call on it, if there is one. -/
def painted (machine : Machine) (call : Option ScreenCall) : Screen :=
  call.elim machine.screen fun call => (machine.screen.perform call).2

/-- Instructions work on the screen in no other way than a host could. -/
theorem screen_of_effect {machine : Machine}
    (done : machine.effect random instruction = .ok made) :
    made.machine.screen = machine.painted (machine.paints instruction) := by
  cases instruction with
  | ret =>
    obtain ⟨caller, outer, target, _, _, rfl⟩ := made_of_ret done
    rfl
  | jump address =>
    obtain ⟨target, _, rfl⟩ := made_of_jump done
    rfl
  | call address =>
    obtain ⟨target, _, _, rfl⟩ := made_of_call done
    rfl
  | jumpOffset x address =>
    obtain ⟨target, rfl⟩ := made_of_jumpOffset done
    rfl
  | arithmetic operation x y =>
    cases done
    exact machine.setResult_screen x _
  | draw x y rows =>
    obtain ⟨bytes, read, rfl⟩ := made_of_draw done
    rw [paints_draw read]
    exact machine.drawSprite_screen _ _
  | drawBig x y =>
    obtain ⟨bytes, read, rfl⟩ := made_of_drawBig done
    rw [paints_drawBig read]
    exact machine.drawSprite_screen _ _
  | storeDigits x =>
    obtain ⟨memory, _, rfl⟩ := made_of_storeDigits done
    rfl
  | storeRegisters last =>
    obtain ⟨memory, _, rfl⟩ := made_of_storeRegisters done
    exact advanceIndex_screen _ _
  | loadRegisters last =>
    obtain ⟨bytes, _, rfl⟩ := made_of_loadRegisters done
    exact advanceIndex_screen _ _
  | unknown opcode => cases done
  | _ =>
    cases done
    rfl

theorem screen_ofEffect : OfEffect screen where

theorem reports_execute (machine : Machine) (random : UInt8) (instruction : Instruction) :
    machine.screen.Reports (machine.execute random instruction).machine.screen := by
  rcases screen_ofEffect.execute_cases machine random instruction with kept | ⟨made, done, same⟩
  · rw [kept]
    exact .refl machine.screen
  · rw [same, screen_of_effect done]
    cases found : machine.paints instruction with
    | none => exact .refl machine.screen
    | some call => exact Screen.reports_perform (paints_unshown found machine.screen)

/-- Even in the last word, where the execution fails after it. -/
theorem dirty_execute_setResolution (machine : Machine) (random : UInt8) (resolution : Resolution) :
    (machine.execute random (.setResolution resolution)).machine.screen.dirty = true := by
  have done : machine.effect random (.setResolution resolution) =
      .ok ⟨{ machine with screen := .blank resolution }, .next, [.screenSwitched resolution]⟩ := rfl
  rw [screen_ofEffect.execute done]
  rfl

theorem screen_of_step (machine : Machine) (random : UInt8) :
    (machine.step random).machine.screen =
      (machine.execute random machine.currentInstruction).machine.screen := by
  obtain ⟨fault, same⟩ := machine.step_eq random
  rw [same]

/-- The instruction that a call executes, if it executes one. -/
def executed? (machine : Machine) : Call → Option Instruction
  | .execute _ instruction => some instruction
  | .cycle _ =>
    if machine.stopped then none
    else
      match machine.runState with
      | .awaiting _ => none
      | .running => some machine.currentInstruction
  | _ => none

theorem cycle_of_executed {machine : Machine}
    (executed : machine.executed? (.cycle random) = some instruction) :
    machine.currentInstruction = instruction ∧ machine.cycle random = machine.step random := by
  cases stopped : machine.stopped with
  | true => simp [executed?, stopped] at executed
  | false =>
    cases state : machine.runState with
    | awaiting x => simp [executed?, stopped, state] at executed
    | running =>
      simp only [executed?, stopped, state] at executed
      exact ⟨Option.some.inj executed, cycle_of_running stopped state⟩

theorem executed_of_running {machine : Machine} (moving : machine.stopped = false)
    (running : machine.runState = .running) (random : UInt8) :
    machine.executed? (.cycle random) = some machine.currentInstruction := by
  simp [executed?, moving, running]

/-- A cycle keeps what the delivery of a key keeps and what the execution keeps, if there is
one, whether a fault is recorded after it or not. -/
theorem cycle_keeps (holds : Machine → Prop) {machine : Machine}
    (delivered : ∀ keypad registers runState, holds { machine with keypad, registers, runState })
    (executed : machine.executed? (.cycle random) = some machine.currentInstruction → ∀ fault,
      holds { (machine.execute random machine.currentInstruction).machine with fault }) :
    holds (machine.cycle random).machine := by
  rcases machine.cycle_cases random with ⟨_, same⟩ | ⟨x, _, _, same⟩ | ⟨moving, running, same⟩
  · rw [same]
    exact delivered machine.keypad machine.registers machine.runState
  · obtain ⟨keypad, registers, runState, frame⟩ := machine.deliverKey_frame x
    rw [same, frame]
    exact delivered keypad registers runState
  · obtain ⟨fault, stepped⟩ := machine.step_eq random
    rw [same, stepped]
    exact executed (executed_of_running moving running random) fault

/-- A cycle that has something to execute does what the execution does. -/
theorem cycle_of_fetched {machine : Machine} (moving : machine.stopped = false)
    (running : machine.runState = .running) (fetched : machine.currentInstruction = instruction)
    (done : machine.execute random instruction = ⟨after, none, log⟩) :
    machine.executed? (.cycle random) = some instruction ∧
      (machine.cycle random).machine = after ∧ (machine.cycle random).failure = none := by
  subst fetched
  have executed := executed_of_running moving running random
  have succeeded : (machine.execute random machine.currentInstruction).failure = none := by
    rw [done]
  obtain ⟨failure, reached⟩ := step_of_success succeeded
  rw [cycle_of_running moving running, failure, reached, done]
  exact ⟨executed, rfl, rfl⟩

/-- An instruction does the same whether a host executes it or a cycle does, but for the
record of a fault. -/
theorem perform_of_executed {machine : Machine}
    (executed : machine.executed? call = some instruction) :
    ∃ random fault,
      (machine.perform call).answer = .ofFailure (machine.execute random instruction).failure ∧
      (machine.perform call).machine = { (machine.execute random instruction).machine with fault } ∧
      ((machine.execute random instruction).failure = none →
        (machine.perform call).machine = (machine.execute random instruction).machine) := by
  cases call with
  | execute random other =>
    cases executed
    exact ⟨random, _, rfl, rfl, fun _ => rfl⟩
  | cycle random =>
    obtain ⟨fetched, same⟩ := cycle_of_executed executed
    obtain ⟨fault, stepped⟩ := machine.step_eq random
    subst fetched
    refine ⟨random, fault, ?_, ?_, fun succeeded => ?_⟩
    · rw [← failure_step, ← same]
      rfl
    · rw [← stepped, ← same]
      rfl
    · rw [← (step_of_success succeeded).2, ← same]
      rfl
  | _ => cases executed

theorem reports_cycle (machine : Machine) (random : UInt8) :
    machine.screen.Reports (machine.cycle random).machine.screen := by
  apply cycle_keeps (machine.screen.Reports ·.screen)
  · intro keypad registers runState
    exact .refl machine.screen
  · intro _ fault
    exact machine.reports_execute random machine.currentInstruction

/-- The call finds a change of the screen and counts it as shown. -/
def shows (machine : Machine) : Call → Bool
  | .takeUpdated => machine.screen.shows .takeUpdated
  | .screen call => machine.screen.shows call
  | _ => false

/-- The call starts the screen anew: it loads or restarts a program, switches the
mode, or switches the resolution, by itself or by an instruction. -/
def Renews (machine : Machine) (call : Call) : Prop :=
  call.resets = true ∨ (∃ mode, call = .setMode mode) ∨
    ∃ resolution, call = .screen (.setResolution resolution) ∨
      machine.executed? call = some (.setResolution resolution)

theorem dirty_of_renews {machine : Machine} (renews : machine.Renews call) :
    (machine.perform call).machine.screen.dirty = true := by
  rcases renews with resets | ⟨mode, same⟩ | ⟨resolution, same | executed⟩
  · obtain ⟨loaded, same⟩ := machine.perform_of_resets resets
    rw [same]
    rfl
  · subst same
    rfl
  · subst same
    rfl
  · cases call with
    | execute random instruction =>
      cases Option.some.inj executed
      exact machine.dirty_execute_setResolution random resolution
    | cycle random =>
      obtain ⟨fetched, same⟩ := cycle_of_executed executed
      have renewed := machine.dirty_execute_setResolution random resolution
      rw [← fetched, ← screen_of_step, ← same] at renewed
      exact renewed
    | _ => cases executed

/-- A call reports what it does to the screen, unless it counts that as shown. -/
theorem reports_perform {machine : Machine} (unshown : machine.shows call = false) :
    machine.screen.Reports (machine.perform call).machine.screen := by
  by_cases resets : call.resets = true
  · exact .inr (dirty_of_renews (.inl resets))
  · have kept : call.resets = false := eq_false_of_ne_true resets
    cases call with
    | load bytes =>
      rw [machine.load_of_not_resets kept]
      exact .refl machine.screen
    | loadFrom source =>
      rw [machine.loadFrom_of_not_resets kept]
      exact .refl machine.screen
    | setMode mode => exact .inr rfl
    | cycle random => exact machine.reports_cycle random
    | execute random instruction => exact machine.reports_execute random instruction
    | press code =>
      exact machine.perform_key_keeps .press (machine.screen.Reports ·.screen)
        (fun _ => .refl machine.screen) code
    | release code =>
      exact machine.perform_key_keeps .release (machine.screen.Reports ·.screen)
        (fun _ => .refl machine.screen) code
    | takeUpdated => exact .inl (Screen.mark_of_clean unshown)
    | screen call => exact Screen.reports_perform unshown
    | reload => cases kept
    | _ => exact .refl machine.screen

/-- No call of a run counts a change of the screen as shown. -/
def Unshown (machine : Machine) (calls : List Call) : Prop :=
  ∀ first call, first ++ [call] <+: calls → (machine.run first).shows call = false

theorem Unshown.reports {machine : Machine} (unshown : machine.Unshown calls) :
    machine.screen.Reports (machine.run calls).screen := by
  apply run_along fun _ reached => machine.screen.Reports reached.screen
  · exact .refl machine.screen
  · intro first call part reported
    exact reported.trans (reports_perform (unshown first call part))

theorem Unshown.rest {machine : Machine} (unshown : machine.Unshown (first ++ last)) :
    (machine.run first).Unshown last := by
  intro other call part
  rw [← run_append]
  apply unshown
  rw [List.append_assoc]
  exact (List.prefix_append_right_inj first).mpr part

/-- A screen that is marked stays marked until the mark is counted as shown. -/
theorem Unshown.dirty {machine : Machine} (unshown : machine.Unshown calls)
    (dirty : machine.screen.dirty = true) : (machine.run calls).screen.dirty = true := by
  rcases unshown.reports with same | reported
  · rw [same]
    exact dirty
  · exact reported

/-- Between the two ends of a run nothing happened to the screen. -/
structure Undisturbed (start : Machine) (calls : List Call) : Prop where
  screen : (start.run calls).screen = start.screen
  renewed : ∀ first call, first ++ [call] <+: calls → ¬ (start.run first).Renews call

theorem Unshown.undisturbed {start : Machine} (unshown : start.Unshown calls)
    (clean : (start.run calls).screen.dirty = false) : start.Undisturbed calls := by
  constructor
  · rcases unshown.reports with same | reported
    · exact same
    · rw [reported] at clean
      cases clean
  · rintro first call ⟨rest, whole⟩ renews
    subst whole
    have marked : (start.run (first ++ [call])).screen.dirty = true := by
      rw [run_append]
      exact dirty_of_renews renews
    have kept := unshown.rest.dirty marked
    rw [← run_append, clean] at kept
    cases kept

/-- What the mark of a change is for, on one machine. -/
structure ReportsScreen (start : Machine) : Prop where
  undisturbed : start.screen.dirty = false → ∀ calls, start.Unshown calls →
    (start.run calls).screen.dirty = false → start.Undisturbed calls
  refreshed : ∀ {ε : Type} (paint : Screen → Option ε), start.screen.RefreshedBy paint
  taken : start.perform .takeUpdated =
    ⟨{ start with screen := { start.screen with dirty := false } }, .flag start.screen.dirty, []⟩
  asked : start.perform (.screen .takeUpdated) = start.perform .takeUpdated

theorem run_reportsScreen (mode : Mode) (clipsSprites : Bool) (history : List Call) :
    ((initial mode clipsSprites).run history).ReportsScreen where
  undisturbed _ _ unshown clean := unshown.undisturbed clean
  refreshed paint := Screen.refreshedBy _ paint
  taken := rfl
  asked := rfl

/-- A sprite without a dot is no change, and a painter is not called for it. -/
theorem empty_sprite_undisturbed :
    let start := (initial .standard false).run [.takeUpdated]
    let calls := [.tick, .screen (.draw [0x00] ⟨3, 3, false⟩),
      .screen (.refresh fun _ => some .stackUnderflow), .press 1]
    start.Unshown calls ∧ start.Undisturbed calls ∧
      start.screen.RefreshedBy fun _ => some Fault.stackUnderflow := by
  intro start calls
  have unshown : start.Unshown calls := by
    intro first call part
    simp only [calls, List.concat_prefix_cons, List.prefix_nil, List.append_eq_nil_iff,
      List.cons_ne_self, and_false, exists_const, or_false] at part
    rcases part with ⟨rfl, rfl⟩ | ⟨_, rfl, ⟨rfl, rfl⟩ | ⟨_, rfl, ⟨rfl, rfl⟩ | ⟨_, rfl, rfl, rfl⟩⟩⟩
    · rfl
    · rfl
    · rfl
    · rfl
  have reports := run_reportsScreen .standard false [.takeUpdated]
  exact ⟨unshown, reports.undisturbed rfl calls unshown rfl, reports.refreshed _⟩

end Chip8.Machine
