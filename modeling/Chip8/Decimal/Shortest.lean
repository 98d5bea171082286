import Chip8.Decimal.Binary

set_option autoImplicit false

/-! # The shortest decimal of a floating point number

A floating point number is written with the fewest digits that read back as the same number; of
the decimals of that length, the nearest to the number. For `1, 2, … 17` digits the two
neighbours of the number on that decimal grid are tested against the interval of the reals that
round to it, in exact arithmetic.

The number is written positionally from `0.0001` up to below `10 ^ 16`, always with a point, and
with an exponent of at least two digits outside.
-/

namespace Chip8.Shortest

/-- The decimal number `0.d₁d₂… · 10 ^ point`. -/
structure Decimal where
  digits : List Char
  point : Int

/-- The number `num / den` between the bounds of its rounding interval, all over `den`. -/
structure Interval where
  num : Nat
  low : Nat
  high : Nat
  den : Nat
  /-- Whether the bounds themselves round to the number. -/
  closed : Bool

/-- The interval of the reals that round to `m · 2 ^ e`. Below a power of two the next number is
half as far away, unless it is the least normal one. -/
def Interval.ofScaled (x : Binary.Scaled) : Interval :=
  let e := x.exponent - 2
  let below := if x.mantissa = 1 <<< 52 ∧ x.exponent ≠ -1074 then 1 else 2
  { num := (4 * x.mantissa) <<< e.toNat
    low := (4 * x.mantissa - below) <<< e.toNat
    high := (4 * x.mantissa + 2) <<< e.toNat
    den := 1 <<< (-e).toNat
    closed := x.mantissa % 2 = 0 }

/-- Whether the decimal `d · 10 ^ (-scale)` lies in the interval. -/
def Interval.contains (i : Interval) (d : Nat) (scale : Int) : Bool :=
  let up := Nat.pow 10 scale.toNat
  let value := d * i.den * Nat.pow 10 (-scale).toNat
  if i.closed then i.low * up ≤ value ∧ value ≤ i.high * up
  else i.low * up < value ∧ value < i.high * up

/-- The least `k` with `num / den < 10 ^ k`. -/
def Interval.magnitude (i : Interval) : Int :=
  if i.den ≤ i.num then ((Nat.toDigits 10 (i.num / i.den)).length : Int)
  else 1 - ((Nat.toDigits 10 ((i.den + i.num - 1) / i.num - 1)).length : Int)

/-- The decimal with `n` digits nearest to the number that lies in its interval, if there is one.
Of two that are equally near the even one is taken. -/
def Interval.grid? (i : Interval) (n : Nat) : Option (Nat × Int) :=
  let scale := (n : Int) - i.magnitude
  let a := i.num * Nat.pow 10 scale.toNat
  let b := i.den * Nat.pow 10 (-scale).toNat
  let d := a / b
  let r := a % b
  let downFirst : Bool := 2 * r < b ∨ (2 * r = b ∧ d % 2 = 0)
  let candidates := if downFirst then [d, d + 1] else [d + 1, d]
  (candidates.find? (i.contains · scale)).map (·, scale)

/-- The shortest decimal of `m · 2 ^ e` for a positive mantissa. -/
def decimal (x : Binary.Scaled) : Decimal :=
  let i := Interval.ofScaled x
  match (List.range' 1 17).findSome? i.grid? with
  | none => ⟨['0'], 0⟩
  | some (d, scale) =>
    let digits := Nat.toDigits 10 d
    let kept := (digits.reverse.dropWhile (· == '0')).reverse
    ⟨kept, (digits.length : Int) - scale⟩

/-- Digits with a point in front of, inside or behind them. -/
def positional (x : Decimal) : List Char :=
  if x.point ≤ 0 then
    ['0', '.'] ++ List.replicate (-x.point).toNat '0' ++ x.digits
  else
    let whole := x.point.toNat
    let front := x.digits.take whole
    let back := x.digits.drop whole
    front ++ List.replicate (whole - front.length) '0' ++ ['.'] ++
      (if back.isEmpty then ['0'] else back)

/-- Digits with an exponent. -/
def scientific (x : Decimal) : List Char :=
  let power := x.point - 1
  let digits := Nat.toDigits 10 power.natAbs
  x.digits.take 1 ++
    (if x.digits.length ≤ 1 then [] else '.' :: x.digits.drop 1) ++
    ['e', if power < 0 then '-' else '+'] ++
    List.replicate (2 - digits.length) '0' ++ digits

/-- The text of a floating point number. -/
def ofFloat (x : Float) : String :=
  let sign := if Binary.isNegative x then "-" else ""
  match Binary.magnitude? x with
  | none => if x.isNaN then "nan" else sign ++ "inf"
  | some ⟨0, _⟩ => sign ++ "0.0"
  | some scaled =>
    let d := decimal scaled
    sign ++ String.ofList (if -4 < d.point ∧ d.point ≤ 16 then positional d else scientific d)

end Chip8.Shortest
