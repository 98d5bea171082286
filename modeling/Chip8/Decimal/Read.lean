set_option autoImplicit false

/-! # Floating point numbers from decimals

A decimal numeral denotes the floating point number nearest to it. Exponents far beyond the range of
such numbers are cut short, so that no power of ten is formed for them.
-/

namespace Chip8.Decimal

/-- The number `m · 10 ^ e`, rounded to a floating point number. -/
def toFloat (m : Nat) (e : Int) : Float :=
  let magnitude := ((Nat.toDigits 10 m).length : Int) + e
  if m = 0 then 0.0
  else if magnitude < -400 then 0.0
  else if 400 < magnitude then 1.0 / 0.0
  else Float.ofScientific m (e < 0) e.natAbs

/-- The number that decimal digits denote. -/
def natOf (digits : List Char) : Nat :=
  digits.foldl (fun n c => n * 10 + (c.toNat - '0'.toNat)) 0

/-- The number with the given digits before and behind the point and the given power of ten. -/
def ofParts (whole fraction : List Char) (power : Int) : Float :=
  toFloat (natOf (whole ++ fraction)) (power - fraction.length)

end Chip8.Decimal
