import Chip8.Text.Numeral

set_option autoImplicit false

/-! # What is wrong with a YAML text

A text may be no document, a document may hold a number or a character that cannot be formed, and
its collections may be nested too deeply.
-/

namespace Chip8.Yaml

/-- Why a text has no value. -/
inductive Problem where
  /-- The text is no YAML document. -/
  | malformed
  /-- A numeral has a base and no digit. -/
  | noDigits (base : Nat)
  /-- A decimal numeral has more digits than are read. -/
  | tooManyDigits (count : Nat)
  /-- A character is given by a number behind that of the last one. -/
  | noCharacter
  /-- A number is beyond the range in which it has to lie. -/
  | outOfRange
  /-- Collections lie too deep inside each other. -/
  | tooDeep
deriving DecidableEq, Repr

/-- The wording of a problem. -/
def Problem.message : Problem → String
  | malformed => "not a YAML document"
  | noDigits base => "invalid literal for int() with base " ++ toString base ++ ": ''"
  | tooManyDigits count => Numeral.limitMessage (some count)
  | noCharacter => "chr() arg not in range(0x110000)"
  | outOfRange => "number out of range"
  | tooDeep => "collections are nested too deeply"

end Chip8.Yaml
