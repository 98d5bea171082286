import Chip8.Text.Radix
import Chip8.Value

set_option autoImplicit false

/-! # Faults

What can go wrong when a machine runs, when it is built and when a program is given to it. Each
fault is a cause; `Fault.message` has the wording.

Only the three *fatal* faults can arise while instructions run (`Fault.isFatal`): an access beyond
the memory, a program counter that leaves it, and a call deeper than the stack. They halt the
machine.
-/

namespace Chip8

/-- Why a file cannot be read. -/
inductive FileProblem where
  | missing
  | directory
  | denied
  | nameTooLong
  /-- The name has a null character, which no file's name has. -/
  | nullInName
deriving DecidableEq, Repr

/-- The words that the host system has for the problem with the file `path`. -/
def FileProblem.message (path : String) : FileProblem → String
  | .missing => "[Errno 2] No such file or directory: " ++ Quoted.ofText path
  | .directory => "[Errno 21] Is a directory: " ++ Quoted.ofText path
  | .denied => "[Errno 13] Permission denied: " ++ Quoted.ofText path
  | .nameTooLong => "[Errno 36] File name too long: " ++ Quoted.ofText path
  | .nullInName => "embedded null byte"

/-- The cause of a failed operation. -/
inductive Fault where
  /-- An access to an address outside `0x000` to `0xFFF`. -/
  | addressOutOfBounds (address : Int)
  /-- An instruction that leaves the program counter behind the last address. -/
  | pastEndOfMemory (pc : Int)
  /-- A call when the stack holds as many return addresses as it may. -/
  | stackOverflow (depth : Value)
  /-- A key that is not a whole number from 0 to 15. -/
  | invalidKey (given : Value)
  /-- A stack that could not hold any return address. -/
  | stackDepthNotPositive
  /-- A sprite with more rows than can be drawn at once. -/
  | spriteTooTall (rows : Nat)
  /-- A register file that has not sixteen registers. -/
  | wrongRegisterCount
  /-- A register file with a value that is no byte. -/
  | registerNotByte
  /-- A program or a colour level that is no byte. -/
  | notByte
  /-- A screen with a negative number of pixels. -/
  | negativePixelCount
  /-- A position to be wrapped around a side of length zero. -/
  | zeroSide
  /-- An index outside a table, counted from either end. -/
  | indexOutOfRange
  /-- A register name that the register panel does not show. -/
  | unknownLabel (name : String)
  /-- A rate too high to be counted in floating point. -/
  | rateTooHigh
  /-- A program image without a byte. -/
  | emptyImage
  /-- A program image that does not fit behind the program start. -/
  | imageTooLong (size : Nat)
  /-- A program image that cannot be read from its file. -/
  | unreadableImage (path : String) (problem : FileProblem)
  /-- A file name with a null character. -/
  | nullInName

namespace Fault

/-- The wording of a fault. -/
def message : Fault → String
  | addressOutOfBounds a => "Memory address " ++ Radix.address a ++ " out of bounds."
  | pastEndOfMemory pc =>
    "Program counter " ++ Radix.address pc ++ " runs past the end of memory."
  | stackOverflow depth =>
    "Call stack overflow: maximum depth of " ++ depth.quoted ++ " exceeded."
  | invalidKey given => "Key " ++ given.quoted ++ " is not a valid keypad index (0x0-0xF)."
  | stackDepthNotPositive => "Stack depth must be a positive integer."
  | spriteTooTall rows => "Sprite height " ++ toString rows ++ " exceeds 15 rows."
  | wrongRegisterCount => "Register file must contain exactly 16 registers."
  | registerNotByte => "byte must be in range(0, 256)"
  | notByte => "bytes must be in range(0, 256)"
  | negativePixelCount => "negative count"
  | zeroSide => "modulo by zero"
  | indexOutOfRange => "index out of range"
  | unknownLabel name => Quoted.ofText name
  | rateTooHigh => "rate too large to convert to float"
  | emptyImage => "ROM image is empty."
  | imageTooLong size =>
    "ROM image is " ++ toString size ++ " bytes; at most 3584 bytes fit at 0x200."
  | unreadableImage path problem =>
    "Failed to read ROM file " ++ path ++ ": " ++ problem.message path
  | nullInName => FileProblem.nullInName.message ""

/-- The faults that can arise while instructions run, and that halt the machine. -/
def isFatal : Fault → Bool
  | addressOutOfBounds _ => true
  | pastEndOfMemory _ => true
  | stackOverflow _ => true
  | _ => false

end Fault

end Chip8
