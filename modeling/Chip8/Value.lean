import Chip8.Decimal.Shortest
import Chip8.Text.Numeral
import Chip8.Text.Quoted

set_option autoImplicit false

/-! # Values of a settings document

A settings document is a tree of scalars, lists and mappings. A mapping keeps its entries in the
order in which their keys first came. A text may have been put together from code points that make
up no text, because some are surrogates. Host programs also hand such values to the keypad, which
accepts only some of them.

This module says how a value is spelled in a message, whether it is (an integer that is too long is
not), which values count as true, and when two keys of a mapping are the same.
-/

namespace Chip8

/-- A value of a settings document. -/
inductive Value where
  | null
  | bool (b : Bool)
  | int (n : Int)
  | float (x : Float)
  | text (s : String)
  /-- A text with surrogates, by its code points. -/
  | illFormed (points : Points)
  | list (items : List Value)
  | map (entries : List (Value × Value))
deriving Inhabited

namespace Value

/-! ## Spelling -/

mutual

/-- A value as it stands inside another one: texts are quoted. -/
def quoted : Value → String
  | null => "None"
  | bool true => "True"
  | bool false => "False"
  | int n => toString n
  | float x => Shortest.ofFloat x
  | text s => Quoted.ofText s
  | illFormed points => Quoted.ofPoints points
  | list items => "[" ++ ", ".intercalate (quotedItems items) ++ "]"
  | map entries => "\x7b" ++ ", ".intercalate (quotedEntries entries) ++ "\x7d"

/-- The items of a list, each quoted. -/
def quotedItems : List Value → List String
  | [] => []
  | item :: rest => quoted item :: quotedItems rest

/-- The entries of a mapping, key and value quoted. -/
def quotedEntries : List (Value × Value) → List String
  | [] => []
  | (key, value) :: rest => (quoted key ++ ": " ++ quoted value) :: quotedEntries rest

end

/-- The text of a value on its own: a text is bare, surrogates and all. -/
def points : Value → Points
  | text s => .ofText s
  | illFormed points => points
  | v => .ofText (quoted v)

mutual

/-- Whether a value is spelled: all integers in it have few enough digits. -/
def hasSpelling : Value → Bool
  | int n => Numeral.hasDecimal n
  | list items => haveSpelling items
  | map entries => entriesHaveSpelling entries
  | _ => true

/-- Whether all items of a list are spelled. -/
def haveSpelling : List Value → Bool
  | [] => true
  | item :: rest => hasSpelling item && haveSpelling rest

/-- Whether all keys and values of a mapping are spelled. -/
def entriesHaveSpelling : List (Value × Value) → Bool
  | [] => true
  | (key, value) :: rest => hasSpelling key && hasSpelling value && entriesHaveSpelling rest

end

@[simp] theorem hasSpelling_text (s : String) : hasSpelling (text s) = true := rfl

/-! ## Truth -/

/-- Whether a value counts as true: null, false, zeros and whatever is empty do not. -/
def isTrue : Value → Bool
  | null => false
  | bool b => b
  | int n => n != 0
  | float x => x != 0.0
  | text s => !s.isEmpty
  | illFormed points => !points.isEmpty
  | list items => !items.isEmpty
  | map entries => !entries.isEmpty

/-! ## Mappings -/

/-- The number that a value counts as in a comparison of keys, if it is a whole one. -/
def integer? : Value → Option Int
  | bool b => some (if b then 1 else 0)
  | int n => some n
  | _ => none

/-- Whether two scalars are the same key. Numbers are compared by value, so that one, true and
`1.0` are one key. What is not a number is one key in all its spellings. -/
def sameKey : Value → Value → Bool
  | null, null => true
  | text s, text t => s == t
  | illFormed p, illFormed q => p == q
  | float x, float y => x == y || (x.isNaN && y.isNaN)
  | float x, v => v.integer?.any (Binary.isInteger x)
  | v, float x => v.integer?.any (Binary.isInteger x)
  | v, w =>
    match v.integer?, w.integer? with
    | some m, some n => m == n
    | _, _ => false

/-- The entries with the value of `key` set: an entry that has the key keeps its place and its
spelling of the key, and a new one goes to the end. -/
def insert : List (Value × Value) → Value → Value → List (Value × Value)
  | [], key, value => [(key, value)]
  | e :: rest, key, value =>
    if e.1.sameKey key then (e.1, value) :: rest else e :: insert rest key value

/-- The value of the entry whose key is the text `name`. -/
def get? (entries : List (Value × Value)) (name : String) : Option Value :=
  (entries.find? fun e => e.1.sameKey (.text name)).map (·.2)

end Value

end Chip8
