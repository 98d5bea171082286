import Chip8.DryRun
import Chip8.Main
import Chip8.Proofs.Instruction.Effect
import Chip8.Proofs.Instruction.Repeat
import Chip8.Proofs.Machine.Event
import Chip8.Proofs.Machine.Failure
import Chip8.Proofs.Machine.Invariant
import Chip8.Proofs.Machine.Resolution
import Chip8.Proofs.Machine.Retry
import Chip8.Proofs.Machine.Sound
import Chip8.Proofs.Machine.Wait
import Chip8.Proofs.Memory.Block
import Chip8.Proofs.Processor.Failure
import Chip8.Proofs.Processor.Sound
import Chip8.Proofs.Processor.Step
import Chip8.Proofs.Machine.Run
import Chip8.Proofs.Instruction.Matching
import Chip8.Proofs.Machine.Execution
import Chip8.Proofs.Machine.Halt
import Chip8.Proofs.Machine.Subroutine
import Chip8.Proofs.Machine.Load
import Chip8.Proofs.Machine.Interleaving
import Chip8.Proofs.Instruction.Footprint
import Chip8.Proofs.Machine.Footprint
import Chip8.Proofs.Machine.Deferral
import Chip8.Proofs.Machine.Catch
import Chip8.Proofs.Machine.Idle
import Chip8.Proofs.Machine.Clock
import Chip8.Proofs.Machine.Countdown
import Chip8.Proofs.Machine.Atomicity
import Chip8.Proofs.Machine.Depth
import Chip8.Proofs.Config.Validity
import Chip8.Proofs.Processor.Settings
import Chip8.Proofs.Machine.Settings
import Chip8.Proofs.Screen.Hits
import Chip8.Proofs.Screen.Order
import Chip8.Proofs.Instruction.Flow
import Chip8.Proofs.Machine.Flow
import Chip8.Proofs.Window.Refresh
import Chip8.Proofs.Window.Controls
import Chip8.Proofs.Instruction.Arithmetic
import Chip8.Proofs.Instruction.StoreLoad
import Chip8.Proofs.Machine.Batch
import Chip8.Proofs.Instruction.Pattern
import Chip8.Proofs.Text.Radix
import Chip8.Proofs.Instruction.Listing
import Chip8.Proofs.Config.Reading
import Chip8.Proofs.Config.Acceptance
import Chip8.Proofs.Text.UpperCase
import Chip8.Proofs.Window.Keys
import Chip8.Proofs.Machine.Draws
import Chip8.Proofs.Machine.Dump
import Chip8.Proofs.Screen.Picture
import Chip8.Proofs.Text.Numeral
import Chip8.Proofs.Text.Malformed
import Chip8.Proofs.Config.Integer
