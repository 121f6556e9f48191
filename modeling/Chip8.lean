import Chip8.Address.Arithmetic
import Chip8.Address.Basic
import Chip8.Cells
import Chip8.Clock
import Chip8.Event
import Chip8.Fault
import Chip8.Font
import Chip8.Host.Answer
import Chip8.Host.Call
import Chip8.Host.Handle
import Chip8.Host.Part
import Chip8.Instruction.Basic
import Chip8.Instruction.Decode
import Chip8.Instruction.Encode
import Chip8.Instruction.Text
import Chip8.Keypad
import Chip8.Layout
import Chip8.Machine.Basic
import Chip8.Machine.Cycle
import Chip8.Machine.Execute
import Chip8.Machine.Load
import Chip8.Memory
import Chip8.Mode
import Chip8.Opcode
import Chip8.Program
import Chip8.Register
import Chip8.Resolution
import Chip8.Screen.Basic
import Chip8.Screen.Scroll
import Chip8.Screen.Sprite
import Chip8.Text.Hex
import Chip8.Timers
import Chip8.Proofs.Address
import Chip8.Proofs.Cells
import Chip8.Proofs.General
import Chip8.Proofs.Host.Handle
import Chip8.Proofs.Instruction.Extension
import Chip8.Proofs.Instruction.Fields
import Chip8.Proofs.Instruction.RoundTrip
import Chip8.Proofs.Instruction.Text
import Chip8.Proofs.Machine.Calling
import Chip8.Proofs.Machine.Computing
import Chip8.Proofs.Machine.Confinement
import Chip8.Proofs.Machine.Conservation
import Chip8.Proofs.Machine.Course
import Chip8.Proofs.Machine.Destination
import Chip8.Proofs.Machine.Drawing
import Chip8.Proofs.Machine.Effect
import Chip8.Proofs.Machine.Failure
import Chip8.Proofs.Machine.Flags
import Chip8.Proofs.Machine.Footprint
import Chip8.Proofs.Machine.Holding
import Chip8.Proofs.Machine.Independence
import Chip8.Proofs.Machine.Invariant
import Chip8.Proofs.Machine.KeyMove
import Chip8.Proofs.Machine.KeyWait
import Chip8.Proofs.Machine.Loading
import Chip8.Proofs.Machine.Logging
import Chip8.Proofs.Machine.Refusal
import Chip8.Proofs.Machine.Renewal
import Chip8.Proofs.Machine.Reporting
import Chip8.Proofs.Machine.Reset
import Chip8.Proofs.Machine.Run
import Chip8.Proofs.Machine.Sources
import Chip8.Proofs.Machine.Stopping
import Chip8.Proofs.Machine.Timing
import Chip8.Proofs.Machine.Transferring
import Chip8.Proofs.Memory
import Chip8.Proofs.Memory.Bounds
import Chip8.Proofs.Memory.Image
import Chip8.Proofs.Screen.Coverage
import Chip8.Proofs.Screen.Dots
import Chip8.Proofs.Screen.Drawing
import Chip8.Proofs.Screen.Halves
import Chip8.Proofs.Screen.Repainting
import Chip8.Proofs.Screen.Reporting
import Chip8.Proofs.Screen.Scrolling
import Chip8.Proofs.Screen.StorageInvariant
import Chip8.Proofs.Screen.Toggling
import Chip8.Proofs.Text
