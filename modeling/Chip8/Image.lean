import Chip8.Log
import Chip8.Memory

set_option autoImplicit false

/-! # Program images

A program image is a sequence of bytes without a header. It has at least one byte, and fits into
memory behind the program start. An image that comes from a file is checked before anything is
done with it.
-/

namespace Chip8

/-- What reading a file gives. -/
abbrev FileContents := Except FileProblem (List UInt8)

namespace Image

/-- Refuses an image of a size that is none. -/
def check (size : Nat) : Except Fault Unit :=
  if size = 0 then .error .emptyImage
  else if maxImageSize < size then .error (.imageTooLong size)
  else .ok ()

/-- The image in a file, and the record that it was read. -/
def ofFile (path : String) (contents : FileContents) : Except Fault (List UInt8 × Record) :=
  match contents with
  | .error .nullInName => .error .nullInName
  | .error problem => .error (.unreadableImage path problem)
  | .ok bytes => (check bytes.length).map fun _ => (bytes, .imageRead path bytes.length)

theorem check_eq_ok_iff {size : Nat} : check size = .ok () ↔ 0 < size ∧ size ≤ 0xE00 := by
  have : maxImageSize = 0xE00 := rfl
  unfold check
  split
  · simp; omega
  · split <;> simp <;> omega

end Image

end Chip8
