import Chip8.Text.Points
import Chip8.Text.Printable

set_option autoImplicit false

/-! # Quoted texts

A text in a message stands between quotation marks: single ones, or double ones if the text has a
single mark and no double one. Inside, a backslash goes before a backslash and before the mark in
use; a tab, a line feed and a carriage return are written `\t`, `\n` and `\r`; any other character
that is not printable is written by its number in base sixteen, as `\x` with two digits, `\u` with
four or `\U` with eight.

A text may also be given by its code points. Surrogates, which are no characters, are written by
their numbers too, also where a text stands without marks.
-/

namespace Chip8.Quoted

/-- The single quotation mark. -/
def single : Char := '\x27'

/-- The double quotation mark. -/
def double : Char := '\x22'

/-- The mark that goes around a text. -/
def mark (s : List Char) : Char :=
  if s.contains single && !s.contains double then double else single

/-- The number of a code point in base sixteen with `width` digits, small letters from ten on. -/
def number (width point : Nat) : List Char :=
  let digits := Nat.toDigits 16 point
  List.replicate (width - digits.length) '0' ++ digits

/-- One character of a text between the marks `q`. -/
def escape (q c : Char) : List Char :=
  if c = q || c = '\\' then ['\\', c]
  else if c = '\t' then ['\\', 't']
  else if c = '\n' then ['\\', 'n']
  else if c = '\r' then ['\\', 'r']
  else if Printable.isPrintable c then [c]
  else if c.toNat < 0x100 then ['\\', 'x'] ++ number 2 c.toNat
  else if c.toNat < 0x10000 then ['\\', 'u'] ++ number 4 c.toNat
  else ['\\', 'U'] ++ number 8 c.toNat

/-- A text whose characters are written in a given way. -/
def written (write : Char → List Char) (p : Points) : List Char :=
  p.flatMap fun n => if n.isValidChar then write (Char.ofNat n) else ['\\', 'u'] ++ number 4 n

/-- The quoted form of the text with the given code points. -/
def ofPoints (p : Points) : String :=
  let q := mark (p.map Char.ofNat)
  String.ofList (q :: written (escape q) p ++ [q])

/-- The quoted form of a text. -/
def ofText (s : String) : String := ofPoints (.ofText s)

/-- The text with the given code points as it is printed, without marks. -/
def bare (p : Points) : String := String.ofList (written (fun c => [c]) p)

example : ofText "q" = "'q'" := by decide +kernel
example : ofText "it's" = "\"it's\"" := by decide +kernel
example : ofText "a\nb\\" = "'a\\nb\\\\'" := by decide +kernel
example : ofPoints [0x71, 0xD800, 0x0A] = "'q\\ud800\\n'" := by decide +kernel
example : bare [0x71, 0xD800, 0x0A] = "q\\ud800\n" := by decide +kernel

end Chip8.Quoted
