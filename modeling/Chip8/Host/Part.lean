import Chip8.Host.Answer
import Chip8.Screen.Scroll
import Chip8.Screen.Sprite

/-! The calls that a host makes on one part of a machine: its screen, its
memory or its keypad. -/
namespace Chip8

inductive ScreenCall where
  | clear
  | draw (bytes : List UInt8) (placement : Placement)
  | drawBig (bytes : List UInt8) (placement : Placement)
  | scrollDown (rows : Nat)
  | scrollLeft (columns : Nat)
  | scrollRight (columns : Nat)
  | setResolution (resolution : Resolution)
  | forceRefresh
  | takeUpdated
  | refresh (paint : Screen → Option Fault)

def Screen.perform (screen : Screen) : ScreenCall → Answer × Screen
  | .clear => (.done, screen.clear)
  | .draw bytes placement =>
    let drawing := screen.draw (.ofBytes bytes) placement
    (.flag drawing.collision, drawing.screen)
  | .drawBig bytes placement =>
    let drawing := screen.draw (.bigOfBytes bytes) placement
    (.flag drawing.collision, drawing.screen)
  | .scrollDown rows => (.done, screen.scrollDown rows)
  | .scrollLeft columns => (.done, screen.scrollLeft columns)
  | .scrollRight columns => (.done, screen.scrollRight columns)
  | .setResolution resolution => (.done, screen.setResolution resolution)
  | .forceRefresh => (.done, screen.forceRefresh)
  | .takeUpdated =>
    let (updated, shown) := screen.takeUpdated
    (.flag updated, shown)
  | .refresh paint =>
    let refresh := screen.refresh paint
    (.painted refresh.seen refresh.failure, refresh.screen)

inductive MemoryCall where
  | write (address : UInt64) (byte : UInt8)
  | writeSlice (start : UInt64) (bytes : List UInt8)
  | reset

/-- The answer for a change that may be refused, and what there is after it. -/
def Answer.ofChange {α : Type} (before : α) : Except Fault α → Answer × α
  | .ok after => (.done, after)
  | .error fault => (.failed fault, before)

def Memory.perform (memory : Memory) : MemoryCall → Answer × Memory
  | .write address byte => Answer.ofChange memory (memory.write address byte)
  | .writeSlice start bytes => Answer.ofChange memory (memory.writeSlice start bytes)
  | .reset => (.done, .blank)

inductive KeypadCall where
  | press (key : Key)
  | release (key : Key)
  | takePressed
  | clearPending

def Keypad.perform (keypad : Keypad) : KeypadCall → Answer × Keypad
  | .press key => (.done, keypad.press key)
  | .release key => (.done, keypad.release key)
  | .takePressed =>
    let (pressed, cleared) := keypad.takePressed
    (.key pressed, cleared)
  | .clearPending => (.done, keypad.clearPending)

end Chip8
