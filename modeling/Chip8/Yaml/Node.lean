import Chip8.Yaml.Token

set_option autoImplicit false

/-! # The node tree of a YAML document

A document is a tree of scalars, sequences and mappings, each with an optional tag. A node that is
left out is an empty plain scalar. An alias stands for the node with the anchor of that name; an
anchor is given once, and holds from the end of its node on.

A text with more than one document is refused. The functions take the tokens in front of them and
give a node and the tokens behind it; the number of tokens bounds the recursion. Where the tokens
break off, what broke them is the problem, and anywhere else it is that the text is malformed.
-/

namespace Chip8.Yaml

/-- A node of a document. -/
inductive Node where
  | scalar (tag : Option String) (text : String) (plain : Bool)
  /-- A quoted scalar that holds surrogates, by its code points. -/
  | illFormed (tag : Option String) (points : Points)
  | sequence (tag : Option String) (items : List Node)
  | mapping (tag : Option String) (entries : List (Node × Node))
deriving Inhabited

namespace Node

/-- The node that is left out. -/
def empty : Node := .scalar none "" true

/-- Tokens that are still to be read, and the anchors that were met, with their nodes as far as
these are known; and how many collections lie around the next token. -/
structure Reader where
  tokens : List Token
  depth : Nat := 0
  anchors : List (String × Option Node) := []

/-- The next token. -/
def Reader.head? (r : Reader) : Option Token := r.tokens.head?

/-- What is left behind the next token. -/
def Reader.tail (r : Reader) : Reader := { r with tokens := r.tokens.drop 1 }

/-- Whether the next token is one of the given ones. -/
def Reader.isAt (r : Reader) (ts : List Token) : Bool := r.head?.any ts.contains

/-- What is wrong if nothing can be done with the next token. -/
def problemAt : List Token → Problem
  | .broken problem :: _ => problem
  | _ => .malformed

/-- The failure to do anything with the next token. -/
def Reader.fail {α : Type} (r : Reader) : Except Problem α := .error (problemAt r.tokens)

/-- The greatest number of collections that may lie inside each other. -/
def maxDepth : Nat := 490

/-- Enters one more collection. -/
def Reader.enter (r : Reader) : Except Problem Reader :=
  if maxDepth ≤ r.depth then .error .tooDeep else .ok { r with depth := r.depth + 1 }

/-- What stands in front of a node: its anchor and its tag. -/
structure Properties where
  anchor : Option String := none
  tag : Option String := none

/-- Whether there is neither. -/
def Properties.isEmpty (p : Properties) : Bool := p.anchor.isNone && p.tag.isNone

/-- The tag that a handle and a suffix stand for. -/
def resolveTag : Option String → String → Option String
  | none, suffix => some suffix
  | some "!", suffix => some ("!" ++ suffix)
  | some "!!", suffix => some ("tag:yaml.org,2002:" ++ suffix)
  | some _, _ => none

/-- The anchor and the tag in front of a node, in either order. -/
def properties (r : Reader) : Except Problem (Properties × Reader) :=
  let tagged (anchor : Option String) (h : Option String) (s : String) (r : Reader) :
      Except Problem (Properties × Reader) :=
    match resolveTag h s with
    | some tag => .ok ({ anchor, tag := some tag }, r)
    | none => .error .malformed
  match r.tokens with
  | .anchor a :: .tag h s :: _ => tagged (some a) h s r.tail.tail
  | .tag h s :: .anchor a :: _ => tagged (some a) h s r.tail.tail
  | .anchor a :: _ => .ok ({ anchor := some a }, r.tail)
  | .tag h s :: _ => tagged none h s r.tail
  | _ => .ok ({}, r)

/-- Notes that a node with an anchor begins. -/
def begin? (anchor : Option String) (r : Reader) : Except Problem Reader :=
  match anchor with
  | none => .ok r
  | some a =>
    match r.tokens with
    | .broken problem :: _ => .error problem
    | _ =>
      if (r.anchors.lookup a).isSome then .error .malformed
      else .ok { r with anchors := (a, none) :: r.anchors }

/-- Leaves a node that lies `depth` deep, and gives it its anchor. -/
def leave (depth : Nat) (anchor : Option String) (node : Node) (r : Reader) : Reader :=
  match anchor with
  | none => { r with depth }
  | some a => { r with depth, anchors := (a, some node) :: r.anchors }

mutual

/-- A node. In a block it may be a block collection, and as the key or value of a mapping a sequence
that is not indented. -/
def read (inBlock unindented : Bool) (r : Reader) : Nat → Except Problem (Node × Reader)
  | 0 => .error .malformed
  | bound + 1 =>
    match r.tokens with
    | .alias name :: _ =>
      match r.anchors.lookup name with
      | some (some node) => .ok (node, r.tail)
      | _ => .error .malformed
    | _ => do
      let depth := r.depth
      let (p, r) ← properties r
      let r ← begin? p.anchor r
      let (node, r) ←
        match r.tokens with
        | .dash :: _ =>
          if unindented then do
            let (items, r) ← readUnindented (← r.enter) bound
            pure (Node.sequence p.tag items, r)
          else if p.isEmpty then r.fail
          else .ok (.scalar p.tag "" true, r)
        | .scalar text isPlain :: _ => .ok (.scalar p.tag text isPlain, r.tail)
        | .illFormed points :: _ => .ok (.illFormed p.tag points, r.tail)
        | .sequenceStart :: _ => do
          let (items, r) ← readFlowItems true (← r.tail.enter) bound
          pure (.sequence p.tag items, r)
        | .mappingStart :: _ => do
          let (entries, r) ← readFlowEntries true (← r.tail.enter) bound
          pure (.mapping p.tag entries, r)
        | .blockSequenceStart :: _ =>
          if inBlock then do
            let (items, r) ← readBlockItems (← r.tail.enter) bound
            pure (.sequence p.tag items, r)
          else r.fail
        | .blockMappingStart :: _ =>
          if inBlock then do
            let (entries, r) ← readBlockEntries (← r.tail.enter) bound
            pure (.mapping p.tag entries, r)
          else r.fail
        | _ => if p.isEmpty then r.fail else .ok (.scalar p.tag "" true, r)
      return (node, leave depth p.anchor node r)

/-- A node, or the empty one in front of some tokens or at the end. -/
def readUnless (stops : List Token) (inBlock unindented : Bool) (r : Reader) :
    Nat → Except Problem (Node × Reader)
  | 0 => .error .malformed
  | bound + 1 => if r.isAt stops then .ok (empty, r) else read inBlock unindented r bound

/-- The items of a block sequence up to its end. -/
def readBlockItems (r : Reader) : Nat → Except Problem (List Node × Reader)
  | 0 => .error .malformed
  | bound + 1 =>
    match r.tokens with
    | .blockEnd :: _ => .ok ([], r.tail)
    | .dash :: _ => do
      let (item, r) ← readUnless [.dash, .blockEnd] true false r.tail bound
      let (rest, r) ← readBlockItems r bound
      return (item :: rest, r)
    | _ => r.fail

/-- The items of a sequence that is not indented. -/
def readUnindented (r : Reader) : Nat → Except Problem (List Node × Reader)
  | 0 => .error .malformed
  | bound + 1 =>
    match r.tokens with
    | .dash :: _ => do
      let (item, r) ← readUnless [.dash, .key, .value, .blockEnd] true false r.tail bound
      let (rest, r) ← readUnindented r bound
      return (item :: rest, r)
    | _ => .ok ([], r)

/-- The entries of a block mapping up to its end. -/
def readBlockEntries (r : Reader) : Nat → Except Problem (List (Node × Node) × Reader)
  | 0 => .error .malformed
  | bound + 1 =>
    match r.tokens with
    | .blockEnd :: _ => .ok ([], r.tail)
    | .key :: _ => do
      let (key, r) ← readUnless [.key, .value, .blockEnd] true true r.tail bound
      let (value, r) ← readBlockValue r bound
      let (rest, r) ← readBlockEntries r bound
      return ((key, value) :: rest, r)
    | _ => r.fail

/-- The value behind a key of a block mapping. -/
def readBlockValue (r : Reader) : Nat → Except Problem (Node × Reader)
  | 0 => .error .malformed
  | bound + 1 =>
    match r.tokens with
    | .value :: _ => readUnless [.key, .value, .blockEnd] true true r.tail bound
    | _ => .ok (empty, r)

/-- The items of a flow sequence up to its end. A key makes an item a mapping of one entry. -/
def readFlowItems (first : Bool) (r : Reader) : Nat → Except Problem (List Node × Reader)
  | 0 => .error .malformed
  | bound + 1 =>
    if r.isAt [.sequenceEnd] then .ok ([], r.tail)
    else do
      let r ← if first then .ok r else if r.isAt [.comma] then .ok r.tail else r.fail
      if r.isAt [.sequenceEnd] then .ok ([], r.tail)
      else
        let (item, r) ←
          if r.isAt [.key] then do
            let inner ← r.tail.enter
            let (key, inner) ← readUnless [.value, .comma, .sequenceEnd] false false inner bound
            let (value, inner) ← readFlowValue .sequenceEnd inner bound
            pure (Node.mapping none [(key, value)], { inner with depth := r.depth })
          else read false false r bound
        let (rest, r) ← readFlowItems false r bound
        return (item :: rest, r)

/-- The entries of a flow mapping up to its end. -/
def readFlowEntries (first : Bool) (r : Reader) : Nat →
    Except Problem (List (Node × Node) × Reader)
  | 0 => .error .malformed
  | bound + 1 =>
    if r.isAt [.mappingEnd] then .ok ([], r.tail)
    else do
      let r ← if first then .ok r else if r.isAt [.comma] then .ok r.tail else r.fail
      if r.isAt [.mappingEnd] then .ok ([], r.tail)
      else
        let (entry, r) ←
          if r.isAt [.key] then do
            let (key, r) ← readUnless [.value, .comma, .mappingEnd] false false r.tail bound
            let (value, r) ← readFlowValue .mappingEnd r bound
            pure ((key, value), r)
          else do
            let (key, r) ← read false false r bound
            pure ((key, empty), r)
        let (rest, r) ← readFlowEntries false r bound
        return (entry :: rest, r)

/-- The value behind a key of a flow collection that ends with `stop`. -/
def readFlowValue (stop : Token) (r : Reader) : Nat → Except Problem (Node × Reader)
  | 0 => .error .malformed
  | bound + 1 =>
    match r.tokens with
    | .value :: _ => readUnless [.comma, stop] false false r.tail bound
    | _ => .ok (empty, r)

end

/-- The tokens behind the directives of a document. There is at most one version, and its first
number is one. -/
def skipDirectives (versioned : Bool) : List Token → Except Problem (List Token)
  | .directive none :: rest => skipDirectives versioned rest
  | .directive (some (major, _)) :: rest =>
    if versioned || major != 1 then .error .malformed else skipDirectives true rest
  | rest => .ok rest

/-- Whether a token begins or ends a document. -/
def isDocumentToken : Token → Bool
  | .directive _ => true
  | .documentStart => true
  | .documentEnd => true
  | _ => false

/-- The root of a document that begins with directives or a mark. -/
def readMarked (tokens : List Token) (bound : Nat) : Except Problem (Node × Reader) := do
  let tokens ← skipDirectives false tokens
  match tokens with
  | .documentStart :: rest =>
    if rest.head?.all isDocumentToken then return (empty, { tokens := rest })
    else read true false { tokens := rest } bound
  | _ => .error (problemAt tokens)

/-- Checks that nothing but marks for its end stands behind a document. -/
def checkEnd (tokens : List Token) : Except Problem Unit :=
  match tokens.dropWhile (· == .documentEnd) with
  | [] => .ok ()
  | rest => do
    let rest ← skipDirectives false rest
    .error (problemAt rest)

/-- The node of the one document that the tokens make up; none if there are no tokens. -/
def ofTokens (tokens : List Token) : Except Problem (Option Node) := do
  let bound := 4 * tokens.length + 8
  let isBare := tokens.head?.any fun t =>
    match t with
    | .directive _ => false
    | .documentStart => false
    | _ => true
  if tokens.isEmpty then return none
  else
    let (node, r) ←
      if isBare then read true false { tokens } bound else readMarked tokens bound
    checkEnd r.tokens
    return some node

end Node

end Chip8.Yaml
