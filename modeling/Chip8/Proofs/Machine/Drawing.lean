import Chip8.Proofs.Machine.Invariant
import Chip8.Proofs.Machine.Reporting
import Chip8.Proofs.Memory.Bounds
import Chip8.Proofs.Memory.Image
import Chip8.Proofs.Screen.Drawing

/-! What the drawing instructions come to: a drawing of the bytes at the index, where the
registers say that it goes, and its collision in the flag register. Both coordinates are
read before the flag is stored, so the flag register may give them as well. -/
namespace Chip8

/-- The sprites that instructions draw. -/
inductive Figure where
  | small (rows : UInt8)
  | big

namespace Figure

def instruction (x y : Register) : Figure → Instruction
  | small rows => .draw x y rows
  | big => .drawBig x y

/-- The number of its bytes. -/
def size : Figure → UInt64
  | small rows => rows.toUInt64
  | big => bigSpriteSize

def rows : Figure → Nat
  | small rows => rows.toNat
  | big => 16

def isBig : Figure → Bool
  | small _ => false
  | big => true

end Figure

namespace Machine

/-- The drawing of these bytes where two registers say, in the dialect of the machine. -/
def stroke (machine : Machine) (figure : Figure) (x y : Register) (bytes : List UInt8) : Stroke :=
  ⟨figure.isBig, bytes,
    ⟨(machine.register x).toNat, (machine.register y).toNat, machine.dialect.clipsSprites⟩⟩

variable {machine : Machine} {figure : Figure} {x y : Register} {bytes : List UInt8}

theorem rows_stroke (size : bytes.length = figure.size.toNat) :
    (machine.stroke figure x y bytes).rows = figure.rows := by
  cases figure with
  | small rows => exact size
  | big =>
    change min 16 ((bytes.length + 1) / 2) = 16
    rw [size]
    rfl

/-- The bytes are read before anything is drawn. -/
theorem effect_figure (random : UInt8) :
    machine.effect random (figure.instruction x y) =
      (machine.memory.slice machine.index.toUInt64 figure.size).map fun bytes =>
        .next (machine.drawSprite (machine.stroke figure x y bytes).sprite
          (machine.stroke figure x y bytes).placement) := by
  cases figure with
  | small rows =>
    change machine.effect random (.draw x y rows) = (machine.memory.slice _ rows.toUInt64).map _
    rw [Action.settles_draw.effect]
    cases machine.memory.slice machine.index.toUInt64 rows.toUInt64 with
    | error reason => rfl
    | ok bytes => rfl
  | big =>
    change machine.effect random (.drawBig x y) = (machine.memory.slice _ bigSpriteSize).map _
    rw [Action.settles_drawBig.effect]
    cases machine.memory.slice machine.index.toUInt64 bigSpriteSize with
    | error reason => rfl
    | ok bytes => rfl

theorem effect_of_read (random : UInt8)
    (read : machine.memory.slice machine.index.toUInt64 figure.size = .ok bytes) :
    machine.effect random (figure.instruction x y) =
      .ok (.next (machine.drawSprite (machine.stroke figure x y bytes).sprite
        (machine.stroke figure x y bytes).placement)) := by
  rw [effect_figure, read]
  rfl

theorem effect_of_unread (random : UInt8)
    (unread : machine.memory.slice machine.index.toUInt64 figure.size = .error reason) :
    machine.effect random (figure.instruction x y) = .error reason := by
  rw [effect_figure, unread]
  rfl

theorem flag_ofEffect : OfEffect (·.register Register.flag) where

/-- Wherever the instruction stands, even where nothing can follow it. -/
theorem execute_of_read (random : UInt8)
    (read : machine.memory.slice machine.index.toUInt64 figure.size = .ok bytes) :
    let stroke := machine.stroke figure x y bytes
    let drawing := machine.screen.draw stroke.sprite stroke.placement
    let after := (machine.execute random (figure.instruction x y)).machine
    after.screen = drawing.screen ∧
      after.register Register.flag = if drawing.collision then 1 else 0 := by
  intro stroke drawing after
  have done := effect_of_read (x := x) (y := y) random read
  refine ⟨screen_ofEffect.execute done, (flag_ofEffect.execute done).trans ?_⟩
  exact (register_setRegister _ _ _ _).trans (if_pos rfl)

/-- What is left by an instruction that made a drawing: what the host would have made of
the screen, and in the flag register the answer that the host would have got. -/
structure Draws (before : Machine) (stroke : Stroke) (outcome : Outcome) : Prop where
  failure : outcome.failure = none
  log : outcome.log = []
  counter : outcome.machine.counter.toNat = before.counter.toNat + 2
  screen : outcome.machine.screen = (before.screen.perform stroke.call).2
  flag : ∃ collided, (before.screen.perform stroke.call).1 = .flag collided ∧
    outcome.machine.register Register.flag = if collided then 1 else 0
  registers : ∀ z, z ≠ Register.flag → outcome.machine.register z = before.register z
  others : outcome.machine = { before with
    screen := outcome.machine.screen
    registers := outcome.machine.registers
    counter := outcome.machine.counter }

theorem draws_of_read (inside : machine.counter.toNat < 0xFFE) (random : UInt8)
    (read : machine.memory.slice machine.index.toUInt64 figure.size = .ok bytes) :
    machine.Draws (machine.stroke figure x y bytes)
      (machine.execute random (figure.instruction x y)) := by
  obtain ⟨screen, flag⟩ := execute_of_read (x := x) (y := y) random read
  obtain ⟨next, reached, past⟩ := AlignedAddress.advance_two_of_ne (Nat.ne_of_lt inside)
  rw [Screen.screen_draw] at screen
  have moved := execute_of_moved (effect_of_read (x := x) (y := y) random read) reached
  refine ⟨?_, ?_, ?_, ?_, ?_, ?_, ?_⟩
  · rw [moved]
  · rw [moved]
    rfl
  · rw [moved]
    exact past
  · rw [screen, Screen.perform_stroke]
    rfl
  · rw [flag, Screen.perform_stroke]
    exact ⟨_, rfl, rfl⟩
  · intro z other
    rw [moved]
    exact (register_setRegister _ _ _ _).trans (if_neg other)
  · rw [moved]
    rfl

/-- A machine on which a drawing is to be made again: the sprite, its place and the clipping
are those of the first machine, and the pixels are those that the first drawing left. -/
structure Repeats (first : Machine) (figure : Figure) (x y : Register) (drawn : Screen)
    (second : Machine) : Prop where
  cells : second.screen.cells = drawn.cells
  resolution : second.screen.resolution = drawn.resolution
  index : second.index = first.index
  sprite : ∀ offset, offset < figure.size.toNat →
    second.memory.cells[first.index.toNat + offset]? = first.memory.cells[first.index.toNat + offset]?
  x : second.register x = first.register x
  y : second.register y = first.register y
  clip : second.dialect.clipsSprites = first.dialect.clipsSprites

/-- A drawing is ready to be made again at once, unless its answer took the place of a
coordinate. -/
theorem Draws.repeats {outcome : Outcome}
    (draws : machine.Draws (machine.stroke figure x y bytes) outcome)
    (column : x ≠ Register.flag) (row : y ≠ Register.flag) :
    machine.Repeats figure x y outcome.machine.screen outcome.machine := by
  have index := congrArg Machine.index draws.others
  have memory := congrArg Machine.memory draws.others
  have dialect := congrArg Machine.dialect draws.others
  refine ⟨rfl, rfl, index, ?_, draws.registers x column, draws.registers y row, ?_⟩
  · intro offset _
    rw [memory]
  · rw [dialect]

namespace Repeats

variable {first second : Machine} {drawn : Screen}

theorem slice (again : first.Repeats figure x y drawn second) :
    second.memory.slice second.index.toUInt64 figure.size =
      first.memory.slice first.index.toUInt64 figure.size := by
  rw [again.index]
  apply Memory.slice_congr
  rw [UInt16.toNat_toUInt64]
  exact again.sprite

theorem stroke (again : first.Repeats figure x y drawn second) (bytes : List UInt8) :
    second.stroke figure x y bytes = first.stroke figure x y bytes := by
  unfold Machine.stroke
  rw [again.x, again.y, again.clip]

/-- Of what the first drawing left, only the pixels matter to the second one. -/
theorem execute_of_read (again : first.Repeats figure x y drawn second)
    (read : first.memory.slice first.index.toUInt64 figure.size = .ok bytes)
    (left : drawn = first.screen.drawAll [first.stroke figure x y bytes]) (random : UInt8) :
    let stroke := first.stroke figure x y bytes
    let drawing := drawn.draw stroke.sprite stroke.placement
    let after := (second.execute random (figure.instruction x y)).machine
    after.screen.cells = drawing.screen.cells ∧ after.screen.resolution = first.screen.resolution ∧
      after.register Register.flag = if drawing.collision then 1 else 0 := by
  intro stroke drawing after
  obtain ⟨screen, flag⟩ := Machine.execute_of_read (x := x) (y := y) random (again.slice.trans read)
  rw [again.stroke bytes] at screen flag
  obtain ⟨cells, collision⟩ :=
    Screen.draw_congr again.cells again.resolution stroke.sprite stroke.placement
  have resolution : second.screen.resolution = first.screen.resolution := by
    rw [again.resolution, left, Screen.resolution_drawAll]
  refine ⟨?_, ?_, ?_⟩
  · exact (congrArg Screen.cells screen).trans cells
  · rw [← resolution, ← Screen.resolution_toggleAll second.screen, ← Screen.screen_draw]
    exact congrArg Screen.resolution screen
  · rw [flag, collision]

end Repeats

/-- The laws of the drawing instructions on one machine. -/
structure DrawsSprites (machine : Machine) : Prop where
  draws : machine.counter.toNat < 0xFFE → ∀ random (figure : Figure) x y,
    machine.index.toNat + figure.size.toNat ≤ memorySize →
      ∃ bytes, bytes.length = figure.size.toNat ∧ machine.memory.Holds machine.index.toNat bytes ∧
        machine.Draws (machine.stroke figure x y bytes)
          (machine.execute random (figure.instruction x y))
  restores : ∀ random (figure : Figure) x y second,
    let drawn := (machine.execute random (figure.instruction x y)).machine.screen
    machine.Repeats figure x y drawn second → ∀ next column row,
      (second.execute next (figure.instruction x y)).machine.screen.pixel column row =
        machine.screen.pixel column row
  again : ∀ random (figure : Figure) x y second,
    let drawn := (machine.execute random (figure.instruction x y)).machine.screen
    machine.Repeats figure x y drawn second →
      machine.index.toNat + figure.size.toNat ≤ memorySize →
        machine.dialect.clipsSprites = true ∨ figure.rows ≤ machine.screen.height → ∀ next,
          ((second.execute next (figure.instruction x y)).machine.register Register.flag = 1 ↔
            ∃ column row, machine.screen.pixel column row = false ∧ drawn.pixel column row = true)

theorem screen_of_read (random : UInt8)
    (read : machine.memory.slice machine.index.toUInt64 figure.size = .ok bytes) :
    (machine.execute random (figure.instruction x y)).machine.screen =
      machine.screen.drawAll [machine.stroke figure x y bytes] := by
  rw [(execute_of_read random read).1, Screen.screen_draw, Screen.drawAll_singleton]
  rfl

theorem restores_pixels {second : Machine} (random next : UInt8)
    (again : machine.Repeats figure x y
      (machine.execute random (figure.instruction x y)).machine.screen second) (column row : Nat) :
    (second.execute next (figure.instruction x y)).machine.screen.pixel column row =
      machine.screen.pixel column row := by
  cases read : machine.memory.slice machine.index.toUInt64 figure.size with
  | ok bytes =>
    have left := screen_of_read (x := x) (y := y) random read
    obtain ⟨cells, resolution, _⟩ := again.execute_of_read read left next
    refine Screen.pixel_congr (cells.trans ?_) resolution column row
    have twice := machine.screen.cells_drawAll_cancel [] [] [] (machine.stroke figure x y bytes)
    change ((machine.screen.drawAll [_]).perform (machine.stroke figure x y bytes).call).2.cells =
      machine.screen.cells at twice
    rw [Screen.perform_stroke] at twice
    rw [left, Screen.screen_draw]
    exact twice
  | error reason =>
    -- The bytes are the same, so neither instruction gets to draw them.
    have first := effect_of_unread (x := x) (y := y) random read
    have last := effect_of_unread (x := x) (y := y) next (again.slice.trans read)
    have cells := again.cells
    have resolution := again.resolution
    rw [execute_of_refusal first] at cells resolution
    rw [execute_of_refusal last]
    exact Screen.pixel_congr cells resolution column row

theorem flag_again {second : Machine} (sound : machine.Sound) (random next : UInt8)
    (read : machine.memory.slice machine.index.toUInt64 figure.size = .ok bytes)
    (fits : machine.dialect.clipsSprites = true ∨ figure.rows ≤ machine.screen.height)
    (again : machine.Repeats figure x y
      (machine.execute random (figure.instruction x y)).machine.screen second) :
    (second.execute next (figure.instruction x y)).machine.register Register.flag = 1 ↔
      ∃ column row, machine.screen.pixel column row = false ∧
        (machine.execute random (figure.instruction x y)).machine.screen.pixel column row = true := by
  have left := screen_of_read (x := x) (y := y) random read
  obtain ⟨_, _, flag⟩ := again.execute_of_read read left next
  rw [← rows_stroke (x := x) (y := y) (Memory.length_of_slice read)] at fits
  rw [flag, left, ← Screen.collision_again sound.screen fits]
  split
  · rename_i collided
    exact iff_of_true rfl collided
  · rename_i clear
    exact iff_of_false (by decide) clear

theorem slice_of_index (inside : machine.index.toNat + length.toNat ≤ memorySize) :
    ∃ bytes, machine.memory.slice machine.index.toUInt64 length = .ok bytes ∧
      bytes.length = length.toNat ∧ machine.memory.Holds machine.index.toNat bytes := by
  rw [← UInt16.toNat_toUInt64] at inside
  obtain ⟨bytes, read⟩ : ∃ bytes, machine.memory.slice machine.index.toUInt64 length = .ok bytes :=
    ⟨_, machine.memory.slice_of_le machine.index.toUInt64 length inside⟩
  obtain ⟨_, size, held⟩ := Memory.slice_eq_ok_iff.mp read
  rw [UInt16.toNat_toUInt64] at held
  exact ⟨bytes, read, size, held⟩

/-- Whatever a host did before, instructions draw by these laws. -/
theorem run_drawsSprites (mode : Mode) (clipsSprites : Bool) (history : List Call) :
    ((initial mode clipsSprites).run history).DrawsSprites where
  draws counter random figure x y inside := by
    obtain ⟨bytes, read, size, held⟩ := slice_of_index inside
    exact ⟨bytes, size, held, draws_of_read counter random read⟩
  restores random figure x y second again next column row :=
    restores_pixels random next again column row
  again random figure x y second again inside fits next := by
    obtain ⟨bytes, read, _⟩ := slice_of_index inside
    exact flag_again ((Sound.initial mode clipsSprites).run history) random next read fits again

/-- The digit zero is drawn over itself: nothing is left of it, and the flag tells so. -/
theorem digit_drawn_twice :
    let before := (initial .standard false).run [.execute 0 (.pointDigit Register.first)]
    let draw := (Figure.small 5).instruction Register.first Register.first
    let first := (before.execute 0 draw).machine
    let second := (first.execute 0 draw).machine
    before.counter.toNat < 0xFFE ∧ before.index.toNat + 5 ≤ memorySize ∧
      (∀ column row, second.screen.pixel column row = before.screen.pixel column row) ∧
      second.register Register.flag = 1 := by
  intro before draw first second
  have laws : before.DrawsSprites :=
    run_drawsSprites .standard false [.execute 0 (.pointDigit Register.first)]
  have counter : before.counter.toNat < 0xFFE := by decide +kernel
  have inside : before.index.toNat + 5 ≤ memorySize := by decide +kernel
  have fits : before.dialect.clipsSprites = true ∨ 5 ≤ before.screen.height := by decide +kernel
  let stroke : Stroke := ⟨false, [0xF0, 0x90, 0x90, 0x90, 0xF0], ⟨0, 0, false⟩⟩
  have held : before.memory.Holds before.index.toNat stroke.bytes := fun _ row =>
    Memory.getElem?_blank_of_covers (List.mem_cons_self : Font.small ∈ Font.builtIn) 0 row
  have glyph : before.memory.slice before.index.toUInt64 (Figure.small 5).size = .ok stroke.bytes :=
    Memory.slice_eq_ok_iff.mpr ⟨inside, rfl, held⟩
  have off : before.screen.pixel 0 0 = false := Screen.pixel_blank .low 0 0
  have drawn : first.screen = (Screen.blank .low).drawAll [stroke] := screen_of_read 0 glyph
  have lit : first.screen.pixel 0 0 = true := by
    rw [drawn]
    exact Screen.pixel_drawAll_of_off (Screen.Sound.blank .low) (.inr (by decide)) (by decide)
      (by decide) (by decide) off
  -- From here on the laws are enough; nothing has to be computed.
  clear_value before
  obtain ⟨_, _, _, draws⟩ := laws.draws counter 0 (.small 5) Register.first Register.first inside
  have again := draws.repeats (by decide) (by decide)
  have same := laws.restores 0 (.small 5) _ _ _ again 0
  have flag := (laws.again 0 (.small 5) _ _ _ again inside fits 0).mpr ⟨0, 0, off, lit⟩
  exact ⟨counter, inside, same, flag⟩

end Machine

end Chip8
