import Chip8.Text.Blank
import Chip8.Text.Digit

set_option autoImplicit false

/-! # Integer numerals

An integer may be written as a text in two ways. A decimal numeral has an optional sign and
decimal digits of any script; a hexadecimal one begins with `0x` or `0X`, has no sign, and has
digits in base sixteen in either case. In both, single underscores may stand between digits (and
one behind the `0x`), and blanks may stand around a decimal numeral and behind a hexadecimal one.
A decimal numeral has at most 4300 digits, leading zeros included.
-/

namespace Chip8.Numeral

/-- The greatest number of digits in a decimal numeral. -/
def maxDecimalDigits : Nat := 4300

/-- Whether an integer is spelled in decimal digits: one with more than the greatest number is not.
-/
def hasDecimal (n : Int) : Bool := n.natAbs < Nat.pow 10 maxDecimalDigits

/-- The message that a decimal numeral is too long, with the number of its digits if it was given
as a text. -/
def limitMessage (count : Option Nat) : String :=
  "Exceeds the limit (" ++ toString maxDecimalDigits ++ " digits) for integer string conversion" ++
    (match count with
      | some n => ": value has " ++ toString n ++ " digits"
      | none => "") ++
    "; use sys.set_int_max_str_digits() to increase the limit"

/-- The ASCII character that `c` counts as in a numeral: a wide blank is a space, a digit of any
script is the ASCII digit of its value, and any other wide character is a question mark, which no
numeral has. -/
def ascii (c : Char) : Char :=
  if c.toNat < 127 then c
  else if Blank.isBlank c then ' '
  else match Digit.value? c with
    | some d => Nat.digitChar d
    | none => '?'

/-- The value of an ASCII digit in a base up to sixteen. -/
def digit? (base : Nat) (c : Char) : Option Nat :=
  let value :=
    if '0' ≤ c ∧ c ≤ '9' then some (c.toNat - 48)
    else if 'a' ≤ c ∧ c ≤ 'f' then some (c.toNat - 87)
    else if 'A' ≤ c ∧ c ≤ 'F' then some (c.toNat - 55)
    else none
  value.filter (· < base)

/-- The values of the digits at the front of a text, single underscores between them left out, and
what follows the last one. An underscore without a digit behind it is not taken. -/
def digitRun (base : Nat) : List Char → List Nat × List Char
  | [] => ([], [])
  | '_' :: c :: rest =>
    match digit? base c with
    | some d => let (ds, after) := digitRun base rest; (d :: ds, after)
    | none => ([], '_' :: c :: rest)
  | c :: rest =>
    match digit? base c with
    | some d => let (ds, after) := digitRun base rest; (d :: ds, after)
    | none => ([], c :: rest)

/-- The number with the given digits, the highest first. -/
def ofDigits (base : Nat) (ds : List Nat) : Nat := ds.foldl (fun n d => n * base + d) 0

/-- Whether only blanks are left. -/
def isTail (cs : List Char) : Bool := cs.all Blank.isAsciiBlank

/-- An unsigned decimal numeral and the blanks behind it. -/
def unsigned? (cs : List Char) : Option Nat :=
  match cs with
  | '_' :: _ => none
  | cs =>
    let (ds, after) := digitRun 10 cs
    if ds.isEmpty || !isTail after || maxDecimalDigits < ds.length then none
    else some (ofDigits 10 ds)

/-- A decimal numeral with the blanks around it. -/
def decimal? (s : String) : Option Int :=
  match (s.toList.map ascii).dropWhile Blank.isAsciiBlank with
  | '-' :: rest => (unsigned? rest).map fun n => -(n : Int)
  | '+' :: rest => (unsigned? rest).map fun n => (n : Int)
  | cs => (unsigned? cs).map fun n => (n : Int)

/-- The digits of a hexadecimal numeral, behind its `0x`, and the blanks behind them. -/
def hexadecimal? (cs : List Char) : Option Int :=
  let (ds, after) := digitRun 16 (cs.map ascii)
  if ds.isEmpty || !isTail after then none else some (ofDigits 16 ds : Nat)

/-- The integer that a text denotes, if it is a numeral. -/
def parse? (s : String) : Option Int :=
  match s.toList with
  | '0' :: 'x' :: digits => hexadecimal? digits
  | '0' :: 'X' :: digits => hexadecimal? digits
  | _ => decimal? s

example : parse? " -1_000 " = some (-1000) := by decide +kernel
example : parse? "0x_fF " = some 255 := by decide +kernel
example : parse? "1__0" = none ∧ parse? "_1" = none ∧ parse? "1_" = none := by decide +kernel
example : parse? " 0x10" = none ∧ parse? "0x" = none ∧ parse? "-0x1" = none := by decide +kernel
example : parse? "١٢" = some 12 ∧ parse? "²" = none := by decide +kernel

end Chip8.Numeral
