import Chip8.Address.Arithmetic
import Chip8.Event
import Chip8.Machine.Basic
import Chip8.Screen.Scroll
import Chip8.Screen.Sprite

/-! What instructions do, one thing after the other. A fault takes nothing back that
was done before it; the program counter moves last. -/
namespace Chip8

/-- Where execution goes on after an instruction. -/
inductive Flow where
  | next
  | skip
  | goTo (target : AlignedAddress)
  | stay
deriving DecidableEq

/-- Fails where the next instruction would lie outside of memory. -/
def Flow.target (flow : Flow) (counter : AlignedAddress) : Except Fault AlignedAddress :=
  match flow with
  | next => counter.advance 2
  | skip => counter.advance 4
  | goTo target => .ok target
  | stay => .ok counter

/-- Columns moved by a scroll to either side. -/
def scrollColumns : Nat := 4

/-- Bytes of a sprite of sixteen by sixteen dots. -/
def bigSpriteSize : UInt64 := 32

namespace Arithmetic

/-- The result for the first register, and the value for the flag register if
the operation reports any. -/
def compute (operation : Arithmetic) (dialect : Dialect) (a b : UInt8) :
    UInt8 × Option UInt8 :=
  let shifted := if dialect.shiftsSecond then b else a
  let cleared := if dialect.logicClearsFlag then some 0 else none
  match operation with
  | copy => (b, none)
  | or => (a ||| b, cleared)
  | and => (a &&& b, cleared)
  | xor => (a ^^^ b, cleared)
  | add => (a + b, some (if 255 < a.toNat + b.toNat then 1 else 0))
  | subtract => (a - b, some (if b ≤ a then 1 else 0))
  | subtractFrom => (b - a, some (if a ≤ b then 1 else 0))
  | shiftRight => (shifted / 2, some (shifted % 2))
  | shiftLeft => (shifted * 2, some (shifted / 128))

end Arithmetic

/-- The hundreds, tens and units of a byte. -/
def decimalDigits (value : UInt8) : List UInt8 := [value / 100, value % 100 / 10, value % 10]

/-- What came of one operation of a machine. -/
structure Outcome where
  machine : Machine
  failure : Option Fault
  log : List Event
deriving DecidableEq

namespace Machine

def holds (machine : Machine) : Condition → Bool
  | .equalsByte x byte => machine.register x == byte
  | .differsByte x byte => machine.register x != byte
  | .equals x y => machine.register x == machine.register y
  | .differs x y => machine.register x != machine.register y
  | .held x => machine.keypad.isHeld (Key.ofByte (machine.register x))
  | .notHeld x => !machine.keypad.isHeld (Key.ofByte (machine.register x))

/-- The flag is stored last, so it stays where both go to one register. -/
def setResult (machine : Machine) (x : Register) : UInt8 × Option UInt8 → Machine
  | (result, none) => machine.setRegister x result
  | (result, some flag) => (machine.setRegister x result).setRegister Register.flag flag

/-- Moves the index past a transfer, where the dialect does so. -/
def advanceIndex (machine : Machine) (length : Nat) : Machine :=
  if machine.dialect.transferAdvancesIndex then
    machine.setIndex (machine.index + UInt16.ofNat length)
  else machine

def placement (machine : Machine) (x y : Register) : Placement :=
  ⟨(machine.register x).toNat, (machine.register y).toNat, machine.dialect.clipsSprites⟩

/-- Draws a sprite and reports in the flag register whether it collided. -/
def drawSprite (machine : Machine) (sprite : Sprite) (placement : Placement) : Machine :=
  let drawing := machine.screen.draw sprite placement
  { machine with screen := drawing.screen }.setRegister Register.flag
    (if drawing.collision then 1 else 0)

/-- The first registers up to and including the one given. -/
def registersThrough (machine : Machine) (last : Register) : List UInt8 :=
  machine.registers.toList.take (last.val + 1)

end Machine

/-- A machine in the middle of an instruction, and what the instruction has logged. -/
structure Progress where
  machine : Machine
  log : List Event

/-- A part of an instruction. A fault leaves everything as it stands at that moment. -/
abbrev Action := EStateM Fault Progress

namespace Action

def machine : Action Machine := return (← get).machine

def alter (change : Machine → Machine) : Action Unit :=
  modify fun progress => { progress with machine := change progress.machine }

def tell (event : Event) : Action Unit :=
  modify fun progress => { progress with log := progress.log ++ [event] }

/-- Ends with the fault, or goes on with the value. -/
def check (answer : Except Fault α) : Action α :=
  match answer with
  | .ok value => return value
  | .error fault => throw fault

/-- A change of the machine that nothing can keep from being made. -/
def next (change : Machine → Machine) : Action Flow := do
  alter change
  return .next

/-- Returning steps past the call it returns to. -/
def ret : Action Flow := do
  match (← machine).stack with
  | [] => throw .stackUnderflow
  | caller :: outer =>
    let target ← check (caller.advance 2)
    alter fun machine => { machine with stack := outer }
    return .goTo target

def exit : Action Flow := do
  alter fun machine => { machine with halted := true }
  tell .exited
  return .stay

def setResolution (resolution : Resolution) : Action Flow := do
  alter fun machine => { machine with screen := machine.screen.setResolution resolution }
  tell (.screenSwitched resolution)
  return .next

def jump (address : Address) : Action Flow := do
  let target ← check address.aligned
  return .goTo target

/-- The target is checked before the depth of the stack. -/
def call (address : Address) : Action Flow := do
  let target ← check address.aligned
  if stackDepth ≤ (← machine).stack.length then throw .stackOverflow
  alter fun machine => { machine with stack := machine.counter :: machine.stack }
  return .goTo target

def jumpOffset (x : Register) (address : Address) : Action Flow := do
  let machine ← machine
  let named := if machine.dialect.jumpsByNamed then x else Register.first
  let sum ← check (address.advance (machine.register named))
  let target ← check sum.aligned
  return .goTo target

def skip (condition : Condition) : Action Flow := do
  return if (← machine).holds condition then .skip else .next

def draw (x y : Register) (rows : UInt8) : Action Flow := do
  let machine ← machine
  let bytes ← check (machine.memory.slice machine.index.toUInt64 rows.toUInt64)
  alter fun machine => machine.drawSprite (.ofBytes bytes) (machine.placement x y)
  return .next

def drawBig (x y : Register) : Action Flow := do
  let machine ← machine
  let bytes ← check (machine.memory.slice machine.index.toUInt64 bigSpriteSize)
  alter fun machine => machine.drawSprite (.bigOfBytes bytes) (machine.placement x y)
  return .next

def storeDigits (x : Register) : Action Flow := do
  let machine ← machine
  let digits := decimalDigits (machine.register x)
  let memory ← check (machine.memory.writeSlice machine.index.toUInt64 digits)
  alter fun machine => { machine with memory }
  return .next

def storeRegisters (last : Register) : Action Flow := do
  let machine ← machine
  let bytes := machine.registersThrough last
  let memory ← check (machine.memory.writeSlice machine.index.toUInt64 bytes)
  alter fun machine => { machine with memory }
  alter fun machine => machine.advanceIndex (last.val + 1)
  return .next

def loadRegisters (last : Register) : Action Flow := do
  let machine ← machine
  let length := last.val + 1
  let bytes ← check (machine.memory.slice machine.index.toUInt64 (UInt64.ofNat length))
  alter fun machine => { machine with registers := Cells.overlay machine.registers 0 bytes }
  alter fun machine => machine.advanceIndex length
  return .next

end Action

namespace Instruction

/-- What an instruction does apart from moving the program counter. -/
def work (random : UInt8) : Instruction → Action Flow
  | .system _ => return .next
  | .scrollDown rows =>
    .next fun machine => { machine with screen := machine.screen.scrollDown rows.toNat }
  | .scrollRight =>
    .next fun machine => { machine with screen := machine.screen.scrollRight scrollColumns }
  | .scrollLeft =>
    .next fun machine => { machine with screen := machine.screen.scrollLeft scrollColumns }
  | .clear => .next fun machine => { machine with screen := machine.screen.clear }
  | .setResolution resolution => .setResolution resolution
  | .ret => .ret
  | .exit => .exit
  | .jump target => .jump target
  | .call target => .call target
  | .jumpOffset x target => .jumpOffset x target
  | .skip condition => .skip condition
  | .loadByte x byte => .next fun machine => machine.setRegister x byte
  | .addByte x byte => .next fun machine => machine.setRegister x (machine.register x + byte)
  | .arithmetic operation x y => .next fun machine =>
    machine.setResult x
      (operation.compute machine.dialect (machine.register x) (machine.register y))
  | .setIndex address => .next fun machine => machine.setIndex (UInt16.ofNat address.toNat)
  | .addIndex x => .next fun machine =>
    machine.setIndex (machine.index + (machine.register x).toUInt16)
  | .random x mask => .next fun machine => machine.setRegister x (random &&& mask)
  | .draw x y rows => .draw x y rows
  | .drawBig x y => .drawBig x y
  | .readDelay x => .next fun machine => machine.setRegister x machine.timers.delay
  | .awaitKey x => .next fun machine =>
    { machine with
      keypad := machine.keypad.clearPending
      runState := .awaiting x }
  | .setDelay x => .next fun machine => machine.setDelay (machine.register x)
  | .setSound x => .next fun machine => machine.setSound (machine.register x)
  | .pointDigit x => .next fun machine =>
    machine.setIndex (UInt16.ofNat (Font.small.glyphAddress (machine.register x)))
  | .pointBigDigit x => .next fun machine =>
    machine.setIndex (UInt16.ofNat (Font.big.glyphAddress (machine.register x)))
  | .storeDigits x => .storeDigits x
  | .storeRegisters last => .storeRegisters last
  | .loadRegisters last => .loadRegisters last
  | .saveFlags last => .next fun machine =>
    { machine with flags := Cells.overlay machine.flags 0 (machine.registersThrough last) }
  | .restoreFlags last => .next fun machine =>
    let flags := machine.flags.toList.take (last.val + 1)
    { machine with registers := Cells.overlay machine.registers 0 flags }
  | .unknown opcode => throw (.unknownOpcode opcode)

def action (random : UInt8) (instruction : Instruction) : Action Unit := do
  let flow ← instruction.work random
  let counter ← .check (flow.target (← .machine).counter)
  .alter fun machine => { machine with counter }

end Instruction

def Outcome.ofRun : EStateM.Result Fault Progress Unit → Outcome
  | .ok _ after => ⟨after.machine, none, after.log⟩
  | .error fault after => ⟨after.machine, some fault, after.log⟩

/-- Executes an instruction as if it stood at the program counter. What it has done
stays done when the counter cannot move on from the last word. -/
def Machine.execute (machine : Machine) (random : UInt8) (instruction : Instruction) : Outcome :=
  .ofRun ((instruction.action random).run ⟨machine, []⟩)

end Chip8
