set_option autoImplicit false

/-! # Numbers in base sixteen

Addresses, registers and instruction words are written in base sixteen, padded with zeros on
the left to a least width. The width counts every character of the number, its minus sign and
the `0x` in front of it too, so that `-1` at width four is `-001`.
-/

namespace Chip8.Radix

/-- The minus sign of a negative number. -/
def sign (n : Int) : List Char := if n < 0 then ['-'] else []

/-- `lead` and then `digits`, with as many zeros between them as bring the whole to `width`
characters. -/
def zeroPadded (width : Nat) (lead digits : List Char) : List Char :=
  lead ++ List.replicate (width - lead.length - digits.length) '0' ++ digits

/-- The digits of `n` in base sixteen, small letters from ten on. -/
def lowerDigits (n : Nat) : List Char := Nat.toDigits 16 n

/-- The digits of `n` in base sixteen, capital letters from ten on. -/
def upperDigits (n : Nat) : List Char := (Nat.toDigits 16 n).map Char.toUpper

/-- `n` in base sixteen with capital letters, at least `width` characters wide. -/
def upper (width : Nat) (n : Int) : String :=
  String.ofList (zeroPadded width (sign n) (upperDigits n.natAbs))

/-- `n` as an address in a message: `0x` and at least three digits, small letters. -/
def address (n : Int) : String :=
  String.ofList (zeroPadded 5 (sign n ++ ['0', 'x']) (lowerDigits n.natAbs))

example : address (-1) = "-0x01" := by decide
example : address 4096 = "0x1000" := by decide
example : upper 4 (-5) = "-005" := by decide
example : upper 2 47 = "2F" := by decide

end Chip8.Radix
