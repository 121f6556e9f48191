import Chip8.Host.Part
import Chip8.Proofs.Machine.Effect

/-! What instructions can do to a machine at all. Later proofs follow these few
courses and not the whole list of instructions. -/
namespace Chip8

namespace Machine

/-- What every instruction leaves alone that neither moves control nor ends the
program. The screen may be worked on, in a way that hosts could as well. -/
structure Keeps (before after : Machine) : Prop where
  counter : after.counter = before.counter := by rfl
  stack : after.stack = before.stack := by rfl
  mode : after.mode = before.mode := by rfl
  dialect : after.dialect = before.dialect := by rfl
  program : after.program = before.program := by rfl
  paused : after.paused = before.paused := by rfl
  halted : after.halted = before.halted := by rfl
  fault : after.fault = before.fault := by rfl
  screen : after.screen = before.screen ∨
    ∃ call, after.screen = (before.screen.perform call).2 := by exact .inl rfl

theorem Keeps.setResult (machine : Machine) (x : Register) (result : UInt8 × Option UInt8) :
    machine.Keeps (machine.setResult x result) := by
  obtain ⟨value, flag⟩ := result
  cases flag with
  | none => exact {}
  | some flag => exact {}

theorem Keeps.advanceIndex {before after : Machine} (kept : before.Keeps after) (length : Nat) :
    before.Keeps (after.advanceIndex length) := by
  unfold Machine.advanceIndex
  split
  · exact { kept with }
  · exact kept

theorem Keeps.drawSprite (machine : Machine) (sprite : Sprite) (placement : Placement)
    (call : ScreenCall)
    (drawn : (machine.screen.perform call).2 = (machine.screen.draw sprite placement).screen) :
    machine.Keeps (machine.drawSprite sprite placement) :=
  { screen := .inr ⟨call, drawn.symm⟩ }

/-- The courses that an instruction can take: one for each way that control
goes on. -/
inductive Course (machine : Machine) : Effect → Prop where
  | next (kept : machine.Keeps after) : Course machine ⟨after, .next, log⟩
  | skip : Course machine ⟨machine, .skip, []⟩
  | stay : Course machine ⟨{ machine with halted := true }, .stay, [.exited]⟩
  | jump : Course machine (.goTo machine target)
  | call (room : machine.stack.length < stackDepth) :
      Course machine (.goTo { machine with stack := machine.counter :: machine.stack } target)
  | ret (opened : machine.stack = caller :: outer) (past : caller.advance 2 = .ok target) :
      Course machine (.goTo { machine with stack := outer } target)

/-- The counter stays where it is until all else is done. -/
theorem Course.counter {machine : Machine} (course : machine.Course made) :
    made.machine.counter = machine.counter := by
  cases course with
  | next kept => exact kept.counter
  | _ => rfl

/-- Every instruction that is not refused takes one of the courses. -/
theorem course_of_effect {machine : Machine}
    (done : machine.effect random instruction = .ok made) : machine.Course made := by
  cases instruction with
  | system address => cases done; exact .next {}
  | scrollDown rows => cases done; exact .next { screen := .inr ⟨.scrollDown rows.toNat, rfl⟩ }
  | scrollRight => cases done; exact .next { screen := .inr ⟨.scrollRight scrollColumns, rfl⟩ }
  | scrollLeft => cases done; exact .next { screen := .inr ⟨.scrollLeft scrollColumns, rfl⟩ }
  | clear => cases done; exact .next { screen := .inr ⟨.clear, rfl⟩ }
  | setResolution resolution =>
    cases done
    exact .next { screen := .inr ⟨.setResolution resolution, rfl⟩ }
  | ret =>
    obtain ⟨caller, outer, target, opened, past, rfl⟩ := made_of_ret done
    exact .ret opened past
  | exit => cases done; exact .stay
  | jump address =>
    obtain ⟨target, _, rfl⟩ := made_of_jump done
    exact .jump
  | call address =>
    obtain ⟨target, _, room, rfl⟩ := made_of_call done
    exact .call room
  | jumpOffset x address =>
    obtain ⟨target, rfl⟩ := made_of_jumpOffset done
    exact .jump
  | skip condition =>
    cases done
    split
    · exact .skip
    · exact .next {}
  | loadByte x byte => cases done; exact .next {}
  | addByte x byte => cases done; exact .next {}
  | arithmetic operation x y => cases done; exact .next (.setResult machine x _)
  | setIndex address => cases done; exact .next {}
  | addIndex x => cases done; exact .next {}
  | random x mask => cases done; exact .next {}
  | draw x y rows =>
    obtain ⟨bytes, _, rfl⟩ := made_of_draw done
    exact .next (.drawSprite machine _ _ (.draw bytes (machine.placement x y)) rfl)
  | drawBig x y =>
    obtain ⟨bytes, _, rfl⟩ := made_of_drawBig done
    exact .next (.drawSprite machine _ _ (.drawBig bytes (machine.placement x y)) rfl)
  | readDelay x => cases done; exact .next {}
  | awaitKey x => cases done; exact .next {}
  | setDelay x => cases done; exact .next {}
  | setSound x => cases done; exact .next {}
  | pointDigit x => cases done; exact .next {}
  | pointBigDigit x => cases done; exact .next {}
  | storeDigits x =>
    obtain ⟨memory, _, rfl⟩ := made_of_storeDigits done
    exact .next {}
  | storeRegisters last =>
    obtain ⟨memory, _, rfl⟩ := made_of_storeRegisters done
    exact .next (Keeps.advanceIndex {} _)
  | loadRegisters last =>
    obtain ⟨bytes, _, rfl⟩ := made_of_loadRegisters done
    exact .next (Keeps.advanceIndex {} _)
  | saveFlags last => cases done; exact .next {}
  | restoreFlags last => cases done; exact .next {}
  | unknown opcode => cases done

end Machine

end Chip8
