import Chip8.Decimal.Read
import Chip8.Value
import Chip8.Yaml.Problem

set_option autoImplicit false

/-! # The value of a plain scalar

What a plain scalar stands for depends on its text: null, a truth value, an integer in base two,
eight, ten, sixteen or sixty, a floating point number, or else the text itself. Underscores between
digits do not count. (Dates are kept as texts.)

A text that has the form of a number may still be none: it may have no digit at all, more digits
than are read, or a place in base sixty that is beyond the range of floating point numbers.
-/

namespace Chip8.Yaml

namespace Scalar

/-- The texts for null. -/
def nulls : List String := ["", "~", "null", "Null", "NULL"]

/-- The texts for true. -/
def trues : List String := ["yes", "Yes", "YES", "true", "True", "TRUE", "on", "On", "ON"]

/-- The texts for false. -/
def falses : List String := ["no", "No", "NO", "false", "False", "FALSE", "off", "Off", "OFF"]

/-- A text that can only be the key of a mapping whose entries are merged into another one. -/
def mergeText : String := "<<"

/-- A text that can only be a key. -/
def defaultText : String := "="

/-- Whether a character is a digit of a base or an underscore. -/
def isDigitOf (base : Nat) (c : Char) : Bool :=
  c == '_' || (c.isDigit && c.toNat - 48 < base) ||
    (base == 16 && (('a' ≤ c && c ≤ 'f') || ('A' ≤ c && c ≤ 'F')))

/-- The value of a digit in a base up to sixteen. -/
def digitValue (c : Char) : Nat :=
  if c.isDigit then c.toNat - 48 else (c.toLower.toNat - 'a'.toNat) + 10

/-- The number with the given digits, underscores left out. Only decimal ones may be too many. -/
def number (base : Nat) (cs : List Char) : Except Problem Nat :=
  let digits := cs.filter (· != '_')
  if digits.isEmpty then .error (.noDigits base)
  else if base = 10 ∧ Numeral.maxDecimalDigits < digits.length then
    .error (.tooManyDigits digits.length)
  else .ok (digits.foldl (fun n c => n * base + digitValue c) 0)

/-- Whether a text is a nonempty run of digits of a base and underscores. -/
def isRun (base : Nat) (cs : List Char) : Bool := !cs.isEmpty && cs.all (isDigitOf base)

/-- Whether a text is a decimal numeral without a leading zero. -/
def isDecimal : List Char → Bool
  | [] => false
  | c :: rest => '1' ≤ c && c ≤ '9' && rest.all (isDigitOf 10)

/-- Whether a text is a place behind the first in a numeral of base sixty. -/
def isSixtieth : List Char → Bool
  | [c] => c.isDigit
  | [c, d] => '0' ≤ c && c ≤ '5' && d.isDigit
  | _ => false

/-- The pieces of a text between the marks. -/
def splitAt (mark : Char) : List Char → List (List Char)
  | [] => [[]]
  | c :: rest =>
    if c == mark then [] :: splitAt mark rest
    else match splitAt mark rest with
      | [] => [[c]]
      | piece :: more => (c :: piece) :: more

/-- An integer without its sign, if the text has the form of one. -/
def unsigned? (cs : List Char) : Option (Except Problem Nat) :=
  match cs with
  | ['0'] => some (.ok 0)
  | '0' :: 'b' :: digits => if isRun 2 digits then some (number 2 digits) else none
  | '0' :: 'x' :: digits => if isRun 16 digits then some (number 16 digits) else none
  | '0' :: digits => if isRun 8 digits then some (number 8 ('0' :: digits)) else none
  | cs =>
    match splitAt ':' cs with
    | [whole] => if isDecimal whole then some (number 10 whole) else none
    | first :: rest =>
      if isDecimal first && rest.all isSixtieth then
        some (((first :: rest).mapM (number 10)).map fun places =>
          places.foldl (fun n place => n * 60 + place) 0)
      else none
    | [] => none

/-- The sign of a numeral and what follows it. -/
def signed : List Char → Bool × List Char
  | '-' :: rest => (true, rest)
  | '+' :: rest => (false, rest)
  | cs => (false, cs)

/-- The power of ten behind a floating point number: nothing, or `e`, a sign and digits. -/
def power? : List Char → Option Int
  | [] => some 0
  | e :: sign :: digits =>
    if (e == 'e' || e == 'E') && (sign == '-' || sign == '+') && !digits.isEmpty &&
        digits.all Char.isDigit then
      let n : Int := Decimal.natOf digits
      some (if sign == '-' then -n else n)
    else none
  | _ => none

/-- A floating point number without its sign. -/
def unsignedFloat? (cs : List Char) (bare : Bool) : Option Float :=
  let whole := cs.takeWhile (isDigitOf 10)
  match cs.drop whole.length with
  | '.' :: rest =>
    let fraction := rest.takeWhile (isDigitOf 10)
    let digits (ds : List Char) : List Char := ds.filter (· != '_')
    let startsWithDigit (ds : List Char) : Bool := ds.head?.any Char.isDigit
    if startsWithDigit whole || (bare && whole.isEmpty && startsWithDigit fraction) then
      (power? (rest.drop fraction.length)).map (Decimal.ofParts (digits whole) (digits fraction))
    else if whole.isEmpty && ["inf", "Inf", "INF"].contains (String.ofList rest) then
      some (1.0 / 0.0)
    else none
  | _ => none

/-- The sum of places in base sixty, the lowest first: `unit` is what the first of them counts. -/
def sumOfSixtieths (sum : Float) (unit : Nat) : List Float → Except Problem Float
  | [] => .ok sum
  | place :: rest =>
    match Binary.nearestQuotient? unit 1 with
    | none => .error .outOfRange
    | some x => sumOfSixtieths (sum + place * x.toFloat) (unit * 60) rest

/-- A floating point number in base sixty, with a point in its last place. -/
def sixtieths? (cs : List Char) : Option (Except Problem Float) :=
  match splitAt ':' cs with
  | first :: rest@(_ :: _) =>
    let last := rest.getLastD []
    let places := rest.dropLast
    let ones := last.takeWhile (· != '.')
    let behind := last.drop ones.length
    let fraction := behind.drop 1
    if first.head?.any Char.isDigit && first.all (isDigitOf 10) && places.all isSixtieth &&
        isSixtieth ones && behind.head? == some '.' && fraction.all (isDigitOf 10) then
      let digits (ds : List Char) : List Char := ds.filter (· != '_')
      let parts := ((first :: places).map fun p => Decimal.ofParts (digits p) [] 0) ++
        [Decimal.ofParts ones (digits fraction) 0]
      some (sumOfSixtieths 0.0 1 parts.reverse)
    else none
  | _ => none

/-- A floating point number, if the text has the form of one. -/
def float? (cs : List Char) : Option (Except Problem Float) :=
  if [".nan", ".NaN", ".NAN"].contains (String.ofList cs) then some (.ok (0.0 / 0.0))
  else
    let (negative, rest) := signed cs
    let bare := rest.length == cs.length
    let magnitude? :=
      ((unsignedFloat? rest bare).map Except.ok).orElse fun _ => sixtieths? rest
    magnitude?.map (·.map fun x => if negative then -1.0 * x else x)

/-- The value of a plain scalar. -/
def plainValue (s : String) : Except Problem Value :=
  if nulls.contains s then .ok .null
  else if trues.contains s then .ok (.bool true)
  else if falses.contains s then .ok (.bool false)
  else if s == mergeText || s == defaultText then .error .malformed
  else
    let (negative, rest) := signed s.toList
    match unsigned? rest with
    | some n => n.map fun n => .int (if negative then -(n : Int) else n)
    | none =>
      match float? s.toList with
      | some x => x.map .float
      | none => .ok (.text s)

/-- The value of a scalar with a tag, which has to fit it. -/
def value (tag : Option String) (text : String) (plain : Bool) : Except Problem Value :=
  match tag with
  | none => if plain then plainValue text else .ok (.text text)
  | some "!" => plainValue text
  | some "tag:yaml.org,2002:str" => .ok (.text text)
  | some "tag:yaml.org,2002:null" => .ok .null
  | some t =>
    match plainValue text with
    | .ok (.bool b) => if t == "tag:yaml.org,2002:bool" then .ok (.bool b) else .error .malformed
    | .ok (.int n) => if t == "tag:yaml.org,2002:int" then .ok (.int n) else .error .malformed
    | .ok (.float x) =>
      if t == "tag:yaml.org,2002:float" then .ok (.float x) else .error .malformed
    | .ok _ => .error .malformed
    | .error problem => .error problem

/-- The value of a quoted scalar with surrogates, given by its code points. -/
def illFormedValue (tag : Option String) (points : Points) : Except Problem Value :=
  match tag with
  | none => .ok (.illFormed points)
  | some "!" => .ok (.illFormed points)
  | some "tag:yaml.org,2002:str" => .ok (.illFormed points)
  | some "tag:yaml.org,2002:null" => .ok .null
  | some _ => .error .malformed

end Scalar

end Chip8.Yaml
