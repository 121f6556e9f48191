import Chip8.Proofs.Machine.Loading

/-! The algebra of starting anew. Of two loads or of two switches of the mode the last
one counts, to start over again changes nothing more, and the mode and the program are
chosen independently of each other. -/
namespace Chip8

theorem Dialect.clipsSprites_ofMode (mode : Mode) (clipsSprites : Bool) :
    (ofMode mode clipsSprites).clipsSprites = clipsSprites := by
  cases mode with
  | standard => rfl
  | extended => rfl

namespace Machine

theorem restart_restart (machine : Machine) : machine.restart.restart = machine.restart := rfl

theorem restart_install (machine : Machine) (program : Program) :
    (machine.install program).restart = machine.install program :=
  restart_restart { machine with program, flags := .replicate flagCount 0 }

/-- Loading keeps all that another load does not forget. -/
theorem sameHost_install (machine : Machine) (program : Program) :
    (machine.install program).SameHost machine where
  mode := rfl
  dialect := rfl
  paused := rfl
  held := rfl

theorem install_install (machine : Machine) (first last : Program) :
    (machine.install first).install last = machine.install last :=
  (install_congr (machine.sameHost_install first) last).symm

theorem setMode_setMode (machine : Machine) (first last : Mode) :
    (machine.setMode first).setMode last = machine.setMode last := by
  simp only [setMode, Dialect.clipsSprites_ofMode]
  rfl

theorem setMode_setDialect (machine : Machine) (dialect : Dialect) (mode : Mode) :
    (machine.setDialect dialect).setMode mode =
      (machine.setMode mode).setDialect (.ofMode mode dialect.clipsSprites) := rfl

theorem restart_setMode (machine : Machine) (mode : Mode) :
    (machine.setMode mode).restart = machine.restart.setMode mode := rfl

theorem install_setMode (machine : Machine) (mode : Mode) (program : Program) :
    (machine.setMode mode).install program = (machine.install program).setMode mode :=
  restart_setMode { machine with program, flags := .replicate flagCount 0 } mode

/-- What a switch of the mode does, and that it does nothing else: the counter, the
stack, a fault, a wait for a key and all the rest are as they were. -/
structure SwitchedTo (chosen : Mode) (before after : Machine) : Prop where
  mode : after.mode = chosen
  /-- Whatever the host had chosen, only its clipping stays. -/
  dialect : after.dialect = .ofMode chosen before.dialect.clipsSprites
  resolution : after.screen.resolution = chosen.resolution
  blank : ∀ x y, after.screen.pixel x y = false
  dirty : after.screen.dirty = true
  others : after =
    { before with mode := after.mode, dialect := after.dialect, screen := after.screen }

theorem switchedTo (machine : Machine) (mode : Mode) :
    SwitchedTo mode machine (machine.setMode mode) where
  mode := rfl
  dialect := rfl
  resolution := rfl
  blank := Screen.pixel_blank mode.resolution
  dirty := rfl
  others := rfl

/-- How loading, starting over and switching the mode combine on one machine. -/
structure StartsAnew (start : Machine) : Prop where
  loads : ∀ program : Program, (start.perform (.load program.bytes)).answer = .done
  lastMode : ∀ first last, start.run [.setMode first, .setMode last] = start.run [.setMode last]
  lastProgram : ∀ first last : Program,
    start.run [.load first.bytes, .load last.bytes] = start.run [.load last.bytes]
  reloadsLoaded : ∀ program : Program,
    start.run [.load program.bytes, .reload] = start.run [.load program.bytes]
  reloadsOnce : start.run [.reload, .reload] = start.run [.reload]
  modeLoads : ∀ mode (program : Program),
    start.run [.setMode mode, .load program.bytes] = start.run [.load program.bytes, .setMode mode]
  modeReloads : ∀ mode, start.run [.setMode mode, .reload] = start.run [.reload, .setMode mode]
  switches : ∀ mode, SwitchedTo mode start (start.run [.setMode mode])
  overrides : ∀ dialect mode, start.run [.setDialect dialect, .setMode mode] =
    (start.run [.setMode mode]).setDialect (.ofMode mode dialect.clipsSprites)

theorem starts_anew (start : Machine) : start.StartsAnew where
  loads program := by rw [start.perform_load_of_le program.fits]
  lastMode first last := start.setMode_setMode first last
  lastProgram first last := by
    rw [run_load, run_load, run_load]
    exact start.install_install first last
  reloadsLoaded program := by
    rw [run_load, run_load]
    exact start.restart_install program
  reloadsOnce := start.restart_restart
  modeLoads mode program := by
    rw [run_load]
    change (start.setMode mode).run [.load program.bytes] = (start.install program).setMode mode
    rw [run_load]
    exact start.install_setMode mode program
  modeReloads mode := start.restart_setMode mode
  switches mode := start.switchedTo mode
  overrides dialect mode := start.setMode_setDialect dialect mode

end Machine

end Chip8
