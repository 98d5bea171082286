import Chip8.Yaml.Token
import Chip8.Yaml.Token.Scalar

set_option autoImplicit false

/-! # Cutting a YAML text into tokens

Indentation opens and closes block collections. A scalar or a flow collection may turn out to be a
key when a colon follows it on the same line; the places where that is possible are remembered, one
for each depth of flow collections, and the key token is put in front when the colon comes.

Where a text cannot be cut any further, only the tokens in front of the first place where a key may
still begin are certain.
-/

namespace Chip8.Yaml

/-- A place where a key may have begun. -/
structure PossibleKey where
  /-- The depth of flow collections it lies in. -/
  depth : Nat
  /-- The number of tokens in front of it. -/
  tokens : Nat
  /-- Whether nothing but a key can stand there. -/
  required : Bool
  index : Nat
  line : Nat
  column : Nat

/-- The greatest distance from the beginning of a key to its colon. -/
def maxKeyLength : Nat := 1024

/-- A text that is cut into tokens up to a place. -/
structure Lexer where
  cursor : Cursor
  tokens : Array Token := #[]
  /-- The depth of flow collections. -/
  depth : Nat := 0
  /-- The column of the block collection, `-1` outside all of them. -/
  indent : Int := -1
  /-- The columns of the block collections around it. -/
  outer : List Int := []
  /-- Whether a key may begin here. -/
  keyAllowed : Bool := true
  keys : List PossibleKey := []

namespace Lexer

/-- Adds a token. -/
def push (l : Lexer) (t : Token) : Lexer := { l with tokens := l.tokens.push t }

/-- Adds a token of one character. -/
def pushMark (l : Lexer) (t : Token) : Lexer := { l.push t with cursor := l.cursor.advance }

/-- Skips blanks, comments and line breaks. -/
def skipToToken (l : Lexer) : Nat → Lexer
  | 0 => l
  | bound + 1 =>
    let c := l.cursor.skip (· == ' ')
    let c := if c.startsWith '#' then c.skip fun ch => !isBreak ch else c
    match c.takeBreak with
    | ([], _) => { l with cursor := c }
    | (_, next) =>
      skipToToken { l with cursor := next, keyAllowed := l.keyAllowed || l.depth == 0 } bound

/-- Whether a possible key is too far back for a colon at the cursor. -/
def isStale (l : Lexer) (k : PossibleKey) : Bool :=
  k.line != l.cursor.line || maxKeyLength < l.cursor.index - k.index

/-- Forgets the possible keys that are too far back. A required one must not be lost. -/
def dropStale (l : Lexer) : Option Lexer :=
  if l.keys.any fun k => l.isStale k && k.required then none
  else some { l with keys := l.keys.filter (!l.isStale ·) }

/-- Forgets the possible key of this depth. A required one must not be lost. -/
def dropKey (l : Lexer) : Option Lexer :=
  if l.keys.any fun k => k.depth == l.depth && k.required then none
  else some { l with keys := l.keys.filter (·.depth != l.depth) }

/-- Remembers that a key may begin here. -/
def saveKey (l : Lexer) : Option Lexer :=
  if l.keyAllowed then do
    let l ← l.dropKey
    let key : PossibleKey :=
      { depth := l.depth, tokens := l.tokens.size
        required := l.depth == 0 && l.indent == l.cursor.column
        index := l.cursor.index, line := l.cursor.line, column := l.cursor.column }
    return { l with keys := key :: l.keys }
  else some l

/-- Closes the block collections that begin to the right of a column. -/
def unwind (l : Lexer) (column : Int) : Lexer :=
  let closed := (l.indent :: l.outer).takeWhile (column < ·)
  if l.depth != 0 ∨ closed.isEmpty then l
  else
    let left := (l.indent :: l.outer).drop closed.length
    { l with
      indent := left.headD (-1)
      outer := left.drop 1
      tokens := l.tokens ++ Array.replicate closed.length .blockEnd }

/-- Opens a block collection at a column if it lies to the right of the current one, and says
whether it does. -/
def openBlock (l : Lexer) (column : Int) : Bool × Lexer :=
  if l.indent < column then (true, { l with indent := column, outer := l.indent :: l.outer })
  else (false, l)

/-- Opens a block collection at the cursor, with its token, if one begins there. -/
def openHere (l : Lexer) (start : Token) : Lexer :=
  match l.openBlock l.cursor.column with
  | (true, l) => l.push start
  | (false, l) => l

/-! ## Marks -/

/-- The end of the text. -/
def finish (l : Lexer) : Option (Array Token) := (l.unwind (-1)).dropKey.map (·.tokens)

/-- A mark between documents. -/
def documentMark (l : Lexer) (t : Token) : Option Lexer := do
  let l ← (l.unwind (-1)).dropKey
  return { l.push t with keyAllowed := false, cursor := l.cursor.advanceBy 3 }

/-- The digits at the cursor. -/
def number? (c : Cursor) : Option (Nat × Cursor) :=
  match c.span Char.isDigit with
  | ([], _) => none
  | (digits, c) => some (digits.foldl (fun n d => n * 10 + (d.toNat - 48)) 0, c)

/-- Whether a character may stand in the name of a directive or an anchor. -/
def isNameChar (ch : Char) : Bool := ch.isAlphanum || ch == '-' || ch == '_'

/-- A directive. -/
def directive (l : Lexer) : Option Lexer := do
  let l ← (l.unwind (-1)).dropKey
  let (name, c) := l.cursor.advance.span isNameChar
  if name.isEmpty || !c.endsAt 0 (fun ch => ch == ' ' || isBreak ch) then none
  else
    let (version, c) ←
      if String.ofList name == "YAML" then do
        let (major, c) ← number? (c.skip (· == ' '))
        if c.startsWith '.' then
          let (minor, c) ← number? c.advance
          if c.endsAt 0 fun ch => ch == ' ' || isBreak ch then some (some (major, minor), c)
          else none
        else none
      else some (none, c.skip fun ch => !isBreak ch)
    let c ← skipLine c
    return { l.push (.directive version) with keyAllowed := false, cursor := c }

/-- The opening mark of a flow collection. -/
def openFlow (l : Lexer) (t : Token) : Option Lexer := do
  let l ← l.saveKey
  return { l.pushMark t with depth := l.depth + 1, keyAllowed := true }

/-- The closing mark of a flow collection. -/
def closeFlow (l : Lexer) (t : Token) : Option Lexer := do
  let l ← l.dropKey
  return { l.pushMark t with depth := l.depth - 1, keyAllowed := false }

/-- A comma. -/
def comma (l : Lexer) : Option Lexer := do
  let l ← l.dropKey
  return { l.pushMark .comma with keyAllowed := true }

/-- A dash. -/
def dash (l : Lexer) : Option Lexer := do
  if l.depth == 0 && !l.keyAllowed then none
  else
    let l := if l.depth == 0 then l.openHere .blockSequenceStart else l
    let l ← l.dropKey
    return { l.pushMark .dash with keyAllowed := true }

/-- A question mark in front of a key. -/
def key (l : Lexer) : Option Lexer := do
  if l.depth == 0 && !l.keyAllowed then none
  else
    let l := if l.depth == 0 then l.openHere .blockMappingStart else l
    let l ← l.dropKey
    return { l.pushMark .key with keyAllowed := l.depth == 0 }

/-- A colon in front of a value. What lies before it becomes a key if it can. -/
def value (l : Lexer) : Option Lexer :=
  match l.keys.find? (·.depth == l.depth) with
  | some k =>
    let (opens, l) := if l.depth == 0 then l.openBlock k.column else (false, l)
    let start := if opens then [Token.blockMappingStart, .key] else [Token.key]
    let tokens := (l.tokens.extract 0 k.tokens ++ start.toArray) ++ l.tokens.extract k.tokens
    some { { l with tokens }.pushMark .value with
      keys := l.keys.filter (·.depth != l.depth), keyAllowed := false }
  | none => do
    if l.depth == 0 && !l.keyAllowed then none
    else
      let l := if l.depth == 0 then l.openHere .blockMappingStart else l
      let l ← l.dropKey
      return { l.pushMark .value with keyAllowed := l.depth == 0 }

/-! ## Names and scalars -/

/-- An alias or an anchor. -/
def name (l : Lexer) (t : String → Token) : Option Lexer := do
  let l ← l.saveKey
  let (name, c) := l.cursor.advance.span isNameChar
  let ends (ch : Char) : Bool :=
    isSpaceOrBreak ch || ['?', ':', ',', ']', '\x7d', '%', '@', '\x60'].contains ch
  if name.isEmpty || !c.endsAt 0 ends then none
  else return { l.push (t (String.ofList name)) with keyAllowed := false, cursor := c }

/-- Whether a character may stand in a tag. -/
def isTagChar (ch : Char) : Bool :=
  ch.isAlphanum || "-;/?:@&=+$,_.!~*'()[]".toList.contains ch

/-- A tag. -/
def tag (l : Lexer) : Option Lexer := do
  let l ← l.saveKey
  let c := l.cursor
  let (handle, suffix, c) ←
    match c.peek? 1 with
    | some '<' =>
      let (suffix, c) := (c.advanceBy 2).span isTagChar
      if suffix.isEmpty || !c.startsWith '>' then none else some (none, suffix, c.advance)
    | some ch =>
      if isSpaceOrBreak ch then some (none, ['!'], c.advance)
      else
        let word := (c.rest.drop 1).takeWhile fun ch => !(ch == ' ' || isBreak ch)
        let handle :=
          if word.contains '!' then '!' :: (word.takeWhile (· != '!') ++ ['!']) else ['!']
        let (suffix, c) := (c.advanceBy handle.length).span isTagChar
        if suffix.isEmpty || !(handle.drop 1).dropLast.all isNameChar then none
        else some (some (String.ofList handle), suffix, c)
    | none => some (none, ['!'], c.advance)
  if c.endsAt 0 fun ch => ch == ' ' || isBreak ch then
    return { l.push (.tag handle (String.ofList suffix)) with keyAllowed := false, cursor := c }
  else none

/-- A block scalar. -/
def blockScalar (l : Lexer) (folded : Bool) (bound : Nat) : Option Lexer := do
  let l ← l.dropKey
  let (text, c) ← block folded l.indent l.cursor.advance bound
  return { l.push (.scalar (String.ofList text) false) with keyAllowed := true, cursor := c }

/-- A scalar between quotation marks. -/
def quotedScalar (l : Lexer) (double : Bool) (bound : Nat) : Except Problem Lexer :=
  match l.saveKey with
  | none => .error .malformed
  | some l =>
    (quoted double l.cursor.advance bound).map fun (points, c) =>
      { l.push (.ofPoints points) with keyAllowed := false, cursor := c }

/-- A plain scalar. -/
def plainScalar (l : Lexer) (bound : Nat) : Option Lexer := do
  let l ← l.saveKey
  let (text, c, broken) := plain (l.depth != 0) (l.indent + 1) l.cursor bound
  return { l.push (.scalar (String.ofList text) true) with keyAllowed := broken, cursor := c }

/-- Whether a plain scalar begins at the cursor. -/
def atPlain (l : Lexer) : Bool :=
  match l.cursor.rest with
  | [] => false
  | ch :: _ =>
    !(isSpaceOrBreak ch || "-?:,[]\x7b\x7d#&*!|>'\"%@`".toList.contains ch) ||
      (!l.cursor.endsAt 1 isSpaceOrBreak &&
        (ch == '-' || (l.depth == 0 && (ch == '?' || ch == ':'))))

/-! ## The text as a whole -/

/-- The next token, at the cursor, if it is no scalar between quotation marks. -/
def nextUnquoted (l : Lexer) (ch : Char) (bound : Nat) : Option Lexer :=
  let c := l.cursor
  let spaceFollows := c.endsAt 1 isSpaceOrBreak
  if ch == '%' && c.column == 0 then l.directive
  else if c.column == 0 && c.atMarker '-' then l.documentMark .documentStart
  else if c.column == 0 && c.atMarker '.' then l.documentMark .documentEnd
  else if ch == '[' then l.openFlow .sequenceStart
  else if ch == '\x7b' then l.openFlow .mappingStart
  else if ch == ']' then l.closeFlow .sequenceEnd
  else if ch == '\x7d' then l.closeFlow .mappingEnd
  else if ch == ',' then l.comma
  else if ch == '-' && spaceFollows then l.dash
  else if ch == '?' && (l.depth != 0 || spaceFollows) then l.key
  else if ch == ':' && (l.depth != 0 || spaceFollows) then l.value
  else if ch == '*' then l.name .alias
  else if ch == '&' then l.name .anchor
  else if ch == '!' then l.tag
  else if ch == '|' && l.depth == 0 then l.blockScalar false bound
  else if ch == '>' && l.depth == 0 then l.blockScalar true bound
  else if l.atPlain then l.plainScalar bound
  else none

/-- The next token, at the cursor. -/
def next (l : Lexer) (ch : Char) (bound : Nat) : Except Problem Lexer :=
  if ch == '\x27' then l.quotedScalar false bound
  else if ch == '\x22' then l.quotedScalar true bound
  else
    match l.nextUnquoted ch bound with
    | some l => .ok l
    | none => .error .malformed

/-- The number of tokens in front of the first place where a key may still begin. -/
def certain (l : Lexer) : Nat :=
  ((l.keys.filter (!l.isStale ·)).map (·.tokens)).foldl min l.tokens.size

/-- The tokens that are certain, and why there are no more. -/
def stop (l : Lexer) (problem : Problem) : Array Token :=
  (l.tokens.extract 0 l.certain).push (.broken problem)

/-- All tokens behind the cursor. -/
def run (l : Lexer) : Nat → Array Token
  | 0 => l.stop .malformed
  | bound + 1 =>
    match (l.skipToToken (bound + 1)).dropStale with
    | none => l.stop .malformed
    | some here =>
      let here := here.unwind here.cursor.column
      match here.cursor.rest with
      | [] => here.finish.getD (l.stop .malformed)
      | ch :: _ =>
        match here.next ch (bound + 1) with
        | .ok next => next.run bound
        | .error problem => l.stop problem

end Lexer

/-- The tokens of a text. A byte order mark at its beginning is skipped, and a text with a character
that is not allowed has no tokens. -/
def Token.scan (text : List Char) : List Token :=
  if text.all isAllowed then
    let start : Cursor := { rest := text }
    let start := if text.head?.any (·.toNat == 0xFEFF) then start.advance else start
    (Lexer.run { cursor := start } (text.length + 1)).toList
  else [.broken .malformed]

end Chip8.Yaml
