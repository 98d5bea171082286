set_option autoImplicit false

/-! # Texts by their code points

A settings document can have texts with surrogates, which are no characters, so that such a text is
no `String`. Where they may come up, in the names of host keys and in what is said about a document,
a text is given by its code points.
-/

namespace Chip8

/-- A text by its code points, surrogates among them or not. -/
abbrev Points := List Nat

namespace Points

/-- The code points of a text. -/
def ofText (s : String) : Points := s.toList.map Char.toNat

/-- The text with the given code points, if there are no surrogates among them. -/
def toText? (p : Points) : Option String :=
  if p.all Nat.isValidChar then some (String.ofList (p.map Char.ofNat)) else none

end Points

end Chip8
