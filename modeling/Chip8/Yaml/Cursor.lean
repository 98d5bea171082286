set_option autoImplicit false

/-! # A place in a YAML text

A cursor is the rest of a text and where that rest begins: how many characters, lines and columns
lie before it. A line ends at a line feed, a carriage return, both together, a next line character
or one of the two Unicode separators.
-/

namespace Chip8.Yaml

/-- Whether a character may stand in a YAML text. -/
def isAllowed (c : Char) : Bool :=
  let n := c.toNat
  n == 0x09 || n == 0x0A || n == 0x0D || (0x20 ≤ n && n ≤ 0x7E) || n == 0x85 ||
    (0xA0 ≤ n && n ≤ 0xD7FF) || (0xE000 ≤ n && n ≤ 0xFFFD) || 0x10000 ≤ n

/-- Whether a character ends a line. -/
def isBreak (c : Char) : Bool :=
  c == '\n' || c == '\r' || c.toNat == 0x85 || c.toNat == 0x2028 || c.toNat == 0x2029

/-- Whether a character is a space, a tab or ends a line. -/
def isSpaceOrBreak (c : Char) : Bool := c == ' ' || c == '\t' || isBreak c

/-- The rest of a text and its place. -/
structure Cursor where
  rest : List Char
  index : Nat := 0
  line : Nat := 0
  column : Nat := 0

namespace Cursor

/-- The character `k` places behind the cursor. -/
def peek? (c : Cursor) (k : Nat) : Option Char := c.rest[k]?

/-- Whether the character `k` places behind the cursor satisfies `p`, or the text ends there. -/
def endsAt (c : Cursor) (k : Nat) (p : Char → Bool) : Bool := (c.peek? k).all p

/-- Whether the rest begins with the character. -/
def startsWith (c : Cursor) (ch : Char) : Bool := c.peek? 0 == some ch

/-- The place behind the next character. A byte order mark takes up no column. -/
def advance (c : Cursor) : Cursor :=
  match c.rest with
  | [] => c
  | ch :: rest =>
    let ends := isBreak ch && !(ch == '\r' && rest.head? == some '\n')
    { rest
      index := c.index + 1
      line := if ends then c.line + 1 else c.line
      column := if ends then 0 else if ch.toNat == 0xFEFF then c.column else c.column + 1 }

/-- The place behind the next `n` characters. -/
def advanceBy (c : Cursor) : Nat → Cursor
  | 0 => c
  | n + 1 => c.advance.advanceBy n

/-- The characters that satisfy `p`, up to the first one that does not, and the place behind them.
-/
def span (c : Cursor) (p : Char → Bool) : List Char × Cursor :=
  let taken := c.rest.takeWhile p
  (taken, c.advanceBy taken.length)

/-- The place behind the characters that satisfy `p`. -/
def skip (c : Cursor) (p : Char → Bool) : Cursor := (c.span p).2

/-- The line break at the cursor as it counts in a scalar, nothing if there is none, and the place
behind it. All breaks count as a line feed but for the two Unicode separators. -/
def takeBreak (c : Cursor) : List Char × Cursor :=
  match c.rest with
  | '\r' :: '\n' :: _ => (['\n'], c.advanceBy 2)
  | ch :: _ =>
    if ch == '\n' || ch == '\r' || ch.toNat == 0x85 then (['\n'], c.advance)
    else if isBreak ch then ([ch], c.advance)
    else ([], c)
  | [] => ([], c)

/-- Whether the cursor is at a line that consists of the mark, three times over, or begins with
that and a space. -/
def atMarker (c : Cursor) (mark : Char) : Bool :=
  c.peek? 0 == some mark && c.peek? 1 == some mark && c.peek? 2 == some mark &&
    c.endsAt 3 isSpaceOrBreak

/-- Whether the cursor is at a mark that divides documents. -/
def atDocumentMark (c : Cursor) : Bool := c.atMarker '-' || c.atMarker '.'

end Cursor

end Chip8.Yaml
