import Chip8.Text.Points
import Chip8.Yaml.Cursor
import Chip8.Yaml.Problem

set_option autoImplicit false

/-! # Scalars in a YAML text

A scalar is plain, between quotation marks, or a block whose lines are set off by their indentation.
A scalar of several lines is folded: a single line break between two lines is a space, and of more
breaks the first one is left out. A literal block keeps all its breaks.

Each function takes the place where the scalar begins and gives its text and the place behind it, or
nothing if the scalar is malformed. A quoted scalar is given by its code points, and may also name a
character that there is none. The number of characters left bounds the recursion.
-/

namespace Chip8.Yaml

/-- A text and the place behind it. -/
abbrev Scanned := List Char × Cursor

/-- What stands for a line break followed by more breaks when lines are folded. -/
def foldBreaks (first breaks : List Char) : List Char :=
  if first != ['\n'] then first ++ breaks
  else if breaks.isEmpty then [' ']
  else breaks

/-! ## Quoted scalars -/

/-- The character that a letter behind a backslash stands for. -/
def escapeOf? : Char → Option Char
  | '0' => some (Char.ofNat 0)
  | 'a' => some (Char.ofNat 7)
  | 'b' => some (Char.ofNat 8)
  | 't' => some '\t'
  | '\t' => some '\t'
  | 'n' => some '\n'
  | 'v' => some (Char.ofNat 0x0B)
  | 'f' => some (Char.ofNat 0x0C)
  | 'r' => some '\r'
  | 'e' => some (Char.ofNat 0x1B)
  | ' ' => some ' '
  | '\x22' => some '\x22'
  | '\\' => some '\\'
  | '/' => some '/'
  | 'N' => some (Char.ofNat 0x85)
  | '_' => some (Char.ofNat 0xA0)
  | 'L' => some (Char.ofNat 0x2028)
  | 'P' => some (Char.ofNat 0x2029)
  | _ => none

/-- The number of digits behind a letter that announces a character number. -/
def escapeWidth? : Char → Option Nat
  | 'x' => some 2
  | 'u' => some 4
  | 'U' => some 8
  | _ => none

/-- The value of a digit in base sixteen. -/
def hexValue? (c : Char) : Option Nat :=
  if '0' ≤ c ∧ c ≤ '9' then some (c.toNat - 48)
  else if 'a' ≤ c ∧ c ≤ 'f' then some (c.toNat - 87)
  else if 'A' ≤ c ∧ c ≤ 'F' then some (c.toNat - 55)
  else none

/-- The code point whose number is written with `width` digits at the cursor. A number behind that
of the last character is refused, and one of more than 31 bits cannot even be compared with it. -/
def codePoint (c : Cursor) (width : Nat) : Except Problem Nat :=
  let digits := c.rest.take width
  match digits.mapM hexValue? with
  | none => .error .malformed
  | some values =>
    let n := values.foldl (fun n d => n * 16 + d) 0
    if digits.length < width then .error .malformed
    else if n < 0x110000 then .ok n
    else if n < 0x80000000 then .error .noCharacter
    else .error .outOfRange

/-- The code points of characters. -/
def pointsOf (cs : List Char) : Points := cs.map Char.toNat

/-- The line breaks inside a quoted scalar, blanks around them left out. -/
def quotedBreaks (c : Cursor) : Nat → Option Scanned
  | 0 => none
  | bound + 1 =>
    if c.atDocumentMark then none
    else
      let c := c.skip fun ch => ch == ' ' || ch == '\t'
      match c.takeBreak with
      | ([], _) => some ([], c)
      | (first, next) => (quotedBreaks next bound).map fun (more, c) => (first ++ more, c)

/-- The blanks and line breaks inside a quoted scalar, folded. -/
def quotedSpaces (c : Cursor) (bound : Nat) : Option Scanned :=
  let (blanks, c) := c.span fun ch => ch == ' ' || ch == '\t'
  match c.rest with
  | [] => none
  | _ =>
    match c.takeBreak with
    | ([], _) => some (blanks, c)
    | (first, next) =>
      (quotedBreaks next bound).map fun (more, c) => (foldBreaks first more, c)

/-- The code points of the rest of a quoted scalar, behind its opening mark, and the place behind
its closing mark. -/
def quoted (double : Bool) (c : Cursor) : Nat → Except Problem (Points × Cursor)
  | 0 => .error .malformed
  | bound + 1 =>
    let continueWith (points : Points) (c : Cursor) : Except Problem (Points × Cursor) :=
      (quoted double c bound).map fun (more, c) => (points ++ more, c)
    let orMalformed (part : Option Scanned) : Except Problem (Points × Cursor) :=
      match part with
      | some (text, c) => continueWith (pointsOf text) c
      | none => .error .malformed
    match c.rest with
    | [] => .error .malformed
    | ch :: rest =>
      if ch == '\x27' && !double then
        if rest.head? == some '\x27' then continueWith [ch.toNat] (c.advanceBy 2)
        else .ok ([], c.advance)
      else if ch == '\x22' && double then .ok ([], c.advance)
      else if ch == '\\' && double then
        let c := c.advance
        match c.peek? 0 with
        | none => .error .malformed
        | some e =>
          match escapeOf? e, escapeWidth? e with
          | some character, _ => continueWith [character.toNat] c.advance
          | none, some width =>
            match codePoint c.advance width with
            | .ok point => continueWith [point] (c.advance.advanceBy width)
            | .error problem => .error problem
          | none, none =>
            if isBreak e then orMalformed (quotedBreaks c.takeBreak.2 bound)
            else .error .malformed
      else if isSpaceOrBreak ch then orMalformed (quotedSpaces c bound)
      else continueWith [ch.toNat] c.advance

/-! ## Plain scalars -/

/-- Whether a plain scalar ends at the cursor. -/
def plainEnds (inFlow : Bool) (c : Cursor) : Bool :=
  match c.rest with
  | [] => true
  | ch :: rest =>
    isSpaceOrBreak ch ||
      (ch == ':' &&
        rest.head?.all fun next => isSpaceOrBreak next ||
          (inFlow && (next == ',' || next == '[' || next == ']' || next == '\x7b' ||
            next == '\x7d'))) ||
      (inFlow && (ch == ',' || ch == '?' || ch == '[' || ch == ']' || ch == '\x7b' ||
        ch == '\x7d'))

/-- The characters of a plain scalar up to the next blank or the end of the scalar. -/
def plainChunk (inFlow : Bool) (c : Cursor) : Nat → Scanned
  | 0 => ([], c)
  | bound + 1 =>
    if plainEnds inFlow c then ([], c)
    else
      let (more, after) := plainChunk inFlow c.advance bound
      (c.rest.take 1 ++ more, after)

/-- The spaces and line breaks behind a line break in a plain scalar: the breaks, and whether a
mark between documents follows. -/
def plainBreaks (c : Cursor) : Nat → List Char × Cursor × Bool
  | 0 => ([], c, false)
  | bound + 1 =>
    let c := c.skip (· == ' ')
    match c.takeBreak with
    | ([], _) => ([], c, false)
    | (first, next) =>
      if next.atDocumentMark then ([], next, true)
      else
        let (more, c, marked) := plainBreaks next bound
        (first ++ more, c, marked)

/-- What stands between two chunks of a plain scalar. -/
structure PlainGap where
  /-- The folded text; empty if the scalar ends here. -/
  text : List Char
  after : Cursor
  /-- Whether there is a line break in it. -/
  broken : Bool

/-- The gap behind a chunk of a plain scalar. -/
def plainGap (c : Cursor) (bound : Nat) : PlainGap :=
  let (blanks, c) := c.span (· == ' ')
  match c.takeBreak with
  | ([], _) => { text := blanks, after := c, broken := false }
  | (first, next) =>
    if next.atDocumentMark then { text := [], after := next, broken := true }
    else
      let (more, after, marked) := plainBreaks next bound
      { text := if marked then [] else foldBreaks first more, after, broken := true }

/-- A plain scalar, and whether the place behind it is on another line. A line of a block that is
indented less than `indent` is not part of it. -/
def plain (inFlow : Bool) (indent : Int) (c : Cursor) : Nat → List Char × Cursor × Bool
  | 0 => ([], c, false)
  | bound + 1 =>
    if c.startsWith '#' then ([], c, false)
    else
      match plainChunk inFlow c bound with
      | ([], _) => ([], c, false)
      | (chunk, next) =>
        let gap := plainGap next bound
        if gap.text.isEmpty || gap.after.startsWith '#' ||
            (!inFlow && (gap.after.column : Int) < indent) then
          (chunk, gap.after, gap.broken)
        else
          match plain inFlow indent gap.after bound with
          | ([], after, broken) => (chunk, after, gap.broken || broken)
          | (more, after, broken) => (chunk ++ gap.text ++ more, after, broken)

/-! ## Block scalars -/

/-- What is done with the line breaks at the end of a block scalar. -/
inductive Chomping where
  | strip
  | clip
  | keep
deriving DecidableEq

/-- The chomping and the indentation that stand behind the mark of a block scalar. A digit gives
the indentation, and is not zero. -/
def blockHeader (c : Cursor) : Option (Chomping × Option Nat × Cursor) :=
  let chomping? (ch : Char) : Option Chomping :=
    if ch == '+' then some .keep else if ch == '-' then some .strip else none
  let digit? (ch : Char) : Option Nat :=
    if '1' ≤ ch ∧ ch ≤ '9' then some (ch.toNat - 48) else none
  let done (chomping : Chomping) (indent : Option Nat) (n : Nat) :=
    let c := c.advanceBy n
    if c.endsAt 0 fun ch => ch == ' ' || isBreak ch then some (chomping, indent, c) else none
  match c.peek? 0, c.peek? 1 with
  | some a, b =>
    match chomping? a, digit? a with
    | some chomping, _ =>
      match b.bind digit? with
      | some d => done chomping (some d) 2
      | none => done chomping none 1
    | none, some d =>
      match b.bind chomping? with
      | some chomping => done chomping (some d) 2
      | none => done .clip (some d) 1
    | none, none => done .clip none 0
  | none, _ => done .clip none 0

/-- The place behind the rest of a line that holds at most a comment. -/
def skipLine (c : Cursor) : Option Cursor :=
  let c := c.skip (· == ' ')
  let c := if c.startsWith '#' then c.skip fun ch => !isBreak ch else c
  if c.endsAt 0 isBreak then some c.takeBreak.2 else none

/-- The breaks of the blank lines at the head of a block, and the greatest column that their
spaces reach. -/
def blockLead (c : Cursor) (greatest : Nat) : Nat → List Char × Nat × Cursor
  | 0 => ([], greatest, c)
  | bound + 1 =>
    let (spaces, c) := c.span (· == ' ')
    let greatest := if spaces.isEmpty then greatest else max greatest c.column
    match c.takeBreak with
    | ([], _) => ([], greatest, c)
    | (first, next) =>
      let (more, greatest, c) := blockLead next greatest bound
      (first ++ more, greatest, c)

/-- The place behind at most so many spaces that the column is `indent`. -/
def skipIndent (c : Cursor) (indent : Nat) : Cursor :=
  c.advanceBy ((c.rest.take (indent - c.column)).takeWhile (· == ' ')).length

/-- The breaks of blank lines, each indented by at most `indent`, and the place where the next line
begins. -/
def blockBreaks (indent : Nat) (c : Cursor) : Nat → Scanned
  | 0 => ([], c)
  | bound + 1 =>
    let c := skipIndent c indent
    match c.takeBreak with
    | ([], _) => ([], c)
    | (first, next) =>
      let (more, c) := blockBreaks indent next bound
      (first ++ more, c)

/-- The lines of a block. `lead` holds the breaks in front of the line at the cursor. -/
def blockLines (folded : Bool) (indent : Nat) (chomping : Chomping) (lead : List Char)
    (c : Cursor) : Nat → Scanned
  | 0 => ([], c)
  | bound + 1 =>
    let startsText (c : Cursor) : Bool := !(c.startsWith ' ' || c.startsWith '\t')
    let (line, next) := c.span fun ch => !isBreak ch
    let (ending, next) := next.takeBreak
    let (breaks, next) := blockBreaks indent next bound
    if next.column = indent ∧ ¬ next.rest.isEmpty then
      let joint :=
        if folded && ending == ['\n'] && startsText c && startsText next then
          if breaks.isEmpty then [' '] else []
        else ending
      let (more, after) := blockLines folded indent chomping breaks next bound
      (lead ++ line ++ joint ++ more, after)
    else
      let tail := match chomping with
        | .strip => []
        | .clip => ending
        | .keep => ending ++ breaks
      (lead ++ line ++ tail, next)

/-- A block scalar, behind its mark, in a block that is indented by `outer`. -/
def block (folded : Bool) (outer : Int) (c : Cursor) (bound : Nat) : Option Scanned := do
  let (chomping, increment, c) ← blockHeader c
  let c ← skipLine c
  let least := (max 1 (outer + 1)).toNat
  let (indent, lead, c) := match increment with
    | none =>
      let (lead, greatest, c) := blockLead c 0 bound
      (max least greatest, lead, c)
    | some n =>
      let indent := least + n - 1
      let (lead, c) := blockBreaks indent c bound
      (indent, lead, c)
  if c.column = indent ∧ ¬ c.rest.isEmpty then
    return blockLines folded indent chomping lead c bound
  else
    return (if chomping = .keep then lead else [], c)

end Chip8.Yaml
