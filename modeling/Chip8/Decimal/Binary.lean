set_option autoImplicit false

/-! # Double precision numbers as fractions

A finite double precision number is `± mantissa · 2 ^ exponent` with a mantissa below `2 ^ 53`.
This module takes such a number apart, and rounds a quotient of whole numbers to the nearest one
of that form.
-/

namespace Chip8.Binary

/-- The number `mantissa · 2 ^ exponent`. -/
structure Scaled where
  mantissa : Nat
  exponent : Int
deriving DecidableEq, Repr

/-- The magnitude of a floating point number, `none` if it is infinite or not a number. -/
def magnitude? (x : Float) : Option Scaled :=
  let bits : Nat := x.toBits.toNat
  let fraction : Nat := bits % (1 <<< 52)
  let power : Nat := (bits >>> 52) % 2048
  if power = 2047 then none
  else if power = 0 then some ⟨fraction, -1074⟩
  else some ⟨fraction + 1 <<< 52, (power : Int) - 1075⟩

/-- Whether the sign bit of `x` is set. -/
def isNegative (x : Float) : Bool := 1 <<< 63 ≤ x.toBits.toNat

/-- Whether `x` is the whole number `n`. -/
def isInteger (x : Float) (n : Int) : Bool :=
  match magnitude? x with
  | none => false
  | some ⟨m, e⟩ =>
    let signed : Int := if isNegative x then -(m : Int) else m
    signed <<< e.toNat == n <<< (-e).toNat

/-- The quotient `a / b`, rounded to a whole number; a half goes to the even neighbour. -/
def roundHalfEven (a b : Nat) : Nat :=
  if 2 * (a % b) < b ∨ (2 * (a % b) = b ∧ a / b % 2 = 0) then a / b else a / b + 1

/-- The double precision number nearest to `a / b`, a half going to the even mantissa; `none` if
it is beyond the greatest one. -/
def nearestQuotient? (a b : Nat) : Option Scaled :=
  if a = 0 then some ⟨0, 0⟩
  else
    let shift : Int := (Nat.log2 a : Int) - Nat.log2 b - 53
    let floor (e : Int) : Nat := (a <<< (-e).toNat) / (b <<< e.toNat)
    let e := if floor shift < 1 <<< 53 then shift else shift + 1
    let m := roundHalfEven (a <<< (-e).toNat) (b <<< e.toNat)
    let rounded : Scaled := if m = 1 <<< 53 then ⟨1 <<< 52, e + 1⟩ else ⟨m, e⟩
    if rounded.exponent > 971 then none else some rounded

/-- A scaled number, rounded to a whole number; a half goes to the even neighbour. -/
def Scaled.round (x : Scaled) : Nat :=
  roundHalfEven (x.mantissa <<< x.exponent.toNat) (1 <<< (-x.exponent).toNat)

/-- A scaled number as a floating point number. -/
def Scaled.toFloat (x : Scaled) : Float := (Float.ofNat x.mantissa).scaleB x.exponent

example : roundHalfEven 5 2 = 2 ∧ roundHalfEven 7 2 = 4 := by decide
example : (nearestQuotient? 11200 1000).map Scaled.round = some 11 := by decide +kernel
example : nearestQuotient? (1 <<< 1024) 1 = none := by decide +kernel

end Chip8.Binary
