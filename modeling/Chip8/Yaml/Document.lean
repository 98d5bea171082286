import Chip8.Yaml.Node
import Chip8.Yaml.Scalar
import Chip8.Yaml.Token.Scan

set_option autoImplicit false

/-! # Reading a YAML document

The value of a YAML text is that of its one document, and null if it has none. Of entries with the
same key the last one counts, at the place of the first. The entries of a mapping under the key `<<`
are merged into the mapping around it, where its own entries win.

Collections are filled level by level: all scalars of one collection come before what is inside its
items. So of several problems the one that lies least deep is reported, and of those the first.
-/

namespace Chip8.Yaml

/-- A problem and how many collections it lies in. -/
structure Buried where
  depth : Nat := 0
  problem : Problem

/-- What is buried, with one more collection around it. -/
def deepen {α : Type} : Except Buried α → Except Buried α
  | .ok a => .ok a
  | .error e => .error { e with depth := e.depth + 1 }

/-- Two parts side by side. Of two problems the less deep one counts, and the first of equals. -/
def beside {α β γ : Type} (f : α → β → γ) : Except Buried α → Except Buried β → Except Buried γ
  | .ok a, .ok b => .ok (f a b)
  | .ok _, .error e => .error e
  | .error e, .ok _ => .error e
  | .error e, .error e' => .error (if e'.depth < e.depth then e' else e)

/-- A problem at the place at hand. -/
def here {α : Type} (part : Except Problem α) : Except Buried α :=
  part.mapError fun problem => { problem }

namespace Node

/-- Whether a tag is absent or the one given. -/
def fits (tag : Option String) (kind : String) : Bool :=
  tag.isNone || tag == some "!" || tag == some ("tag:yaml.org,2002:" ++ kind)

/-- Whether a node is the key under which entries are merged. -/
def isMerge : Node → Bool
  | .scalar tag text plain => (tag.isNone && plain || tag == some "!") && text == Scalar.mergeText
  | _ => false

/-- The value of a key. A plain equals sign is a text here, and lists and mappings are no keys. -/
def keyValue : Node → Except Buried Value
  | .scalar none "=" true => .ok (.text "=")
  | .scalar tag text plain => here (Scalar.value tag text plain)
  | .illFormed tag points => here (Scalar.illFormedValue tag points)
  | _ => here (.error .malformed)

mutual

/-- The value of a node. -/
def value : Node → Except Buried Value
  | .scalar tag text plain => here (Scalar.value tag text plain)
  | .illFormed tag points => here (Scalar.illFormedValue tag points)
  | .sequence tag items =>
    if fits tag "seq" then deepen ((itemValues items).map .list) else here (.error .malformed)
  | .mapping tag entries =>
    if fits tag "map" then
      deepen ((beside (· ++ ·) (mergedEntries entries) (ownEntries entries)).map fun all =>
        .map (all.foldl (fun es e => Value.insert es e.1 e.2) []))
    else here (.error .malformed)

/-- The values of the items of a sequence. -/
def itemValues : List Node → Except Buried (List Value)
  | [] => .ok []
  | item :: rest => beside List.cons (value item) (itemValues rest)

/-- The entries that a mapping merges, from all values under the merging key. -/
def mergedEntries : List (Node × Node) → Except Buried (List (Value × Value))
  | [] => .ok []
  | (key, v) :: rest =>
    if isMerge key then beside (· ++ ·) (entriesToMerge v) (mergedEntries rest)
    else mergedEntries rest

/-- The entries that a value under the merging key adds: those of a mapping, first the ones that it
merges itself, or of the mappings in a list, the last one first. -/
def entriesToMerge : Node → Except Buried (List (Value × Value))
  | .mapping _ entries => beside (· ++ ·) (mergedEntries entries) (ownEntries entries)
  | .sequence _ items => lastFirst items
  | _ => here (.error .malformed)

/-- The entries of the mappings in a list, the last one first. -/
def lastFirst : List Node → Except Buried (List (Value × Value))
  | [] => .ok []
  | .mapping _ entries :: rest =>
    beside (· ++ ·) (lastFirst rest)
      (beside (· ++ ·) (mergedEntries entries) (ownEntries entries))
  | _ :: _ => here (.error .malformed)

/-- The entries of a mapping but for those that it merges. -/
def ownEntries : List (Node × Node) → Except Buried (List (Value × Value))
  | [] => .ok []
  | (key, v) :: rest =>
    if isMerge key then ownEntries rest
    else beside List.cons (beside Prod.mk (keyValue key) (value v)) (ownEntries rest)

end

end Node

/-- The value of a YAML text. -/
def read (text : String) : Except Problem Value :=
  match Node.ofTokens (Token.scan text.toList) with
  | .error problem => .error problem
  | .ok none => .ok .null
  | .ok (some node) => node.value.mapError (·.problem)

end Chip8.Yaml
