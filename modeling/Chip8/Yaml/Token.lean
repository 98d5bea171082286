import Chip8.Text.Points
import Chip8.Yaml.Problem

set_option autoImplicit false

/-! # Tokens of YAML

The marks and scalars of a YAML text, with the structure that its indentation stands for made
explicit: a block collection begins with a token of its own and ends with `blockEnd`. Where a text
cannot be cut into tokens any further, the last token says why.
-/

namespace Chip8.Yaml

/-- A token. -/
inductive Token where
  /-- A line that begins with a percent sign. The version is that of a `%YAML` line. -/
  | directive (version : Option (Nat × Nat))
  | documentStart
  | documentEnd
  | blockSequenceStart
  | blockMappingStart
  | blockEnd
  | sequenceStart
  | sequenceEnd
  | mappingStart
  | mappingEnd
  /-- The comma between the entries of a flow collection. -/
  | comma
  /-- The dash in front of an entry of a block sequence. -/
  | dash
  | key
  | value
  | alias (name : String)
  | anchor (name : String)
  /-- A tag; the handle is what stands before its suffix, `!` or `!!`. -/
  | tag (handle : Option String) (suffix : String)
  /-- A scalar and whether it stands without quotation marks. -/
  | scalar (text : String) (plain : Bool)
  /-- A scalar between quotation marks that holds surrogates, by its code points. -/
  | illFormed (points : Points)
  /-- The end of what can be read. -/
  | broken (problem : Problem)
deriving DecidableEq, Repr

/-- The token of a scalar between quotation marks with the given code points. -/
def Token.ofPoints (points : Points) : Token :=
  match points.toText? with
  | some text => .scalar text false
  | none => .illFormed points

end Chip8.Yaml
