import Chip8.Config
import Chip8.Text.Numeral

set_option autoImplicit false

/-! # Reading a configuration

A configuration is a mapping with the fields `cpu_hz`, `timer_hz`, `sprite_wrap`, `stack_depth`,
`random_seed`, `display_scale`, `palette` and `key_map`, all of which may be absent; other fields
do not matter. An integer is given as a number or as a numeral in a text. A truth value is not an
integer.

The sections are checked in a fixed order, and the first fault is reported: the palette, then the
key map entry by entry, then the other fields. A fault that would have to spell an integer with too
many digits is reported as that.
-/

namespace Chip8

/-- What is wrong with a configuration. -/
inductive ConfigFault where
  /-- The document is no mapping. -/
  | notMapping
  /-- A section is no mapping. -/
  | sectionNotMapping (name : String)
  /-- A value is no integer. -/
  | notInteger (given : Value)
  /-- A field that has to be positive is not. -/
  | notPositive (field : String) (given : Value)
  /-- A grey level is not from 0 to 255. -/
  | notLevel (given : Value)
  /-- A host key is bound to a key that the keypad has not. -/
  | notKey (host given : Value)
  /-- An integer that has to be spelled has too many digits. -/
  | tooManyDigits

/-- The wording of a fault. -/
def ConfigFault.message : ConfigFault → Points
  | notMapping => Points.ofText "System config must be a mapping."
  | sectionNotMapping name => Points.ofText ("Section " ++ name ++ " must be a mapping.")
  | notInteger given => Points.ofText "Invalid integer format: " ++ given.points
  | notPositive field given =>
    Points.ofText (field ++ " must be a positive integer: ") ++ given.points
  | notLevel given => Points.ofText "Invalid color level: " ++ given.points
  | notKey host given =>
    Points.ofText ("Invalid CHIP-8 key " ++ given.quoted ++ " for host key " ++ host.quoted)
  | tooManyDigits => Points.ofText (Numeral.limitMessage none)

/-- The integer that a value gives, as a number or as a numeral. -/
def Value.toInteger? : Value → Option Int
  | .int n => some n
  | .text s => Numeral.parse? s
  | _ => none

/-- The name of the host key that a key of the key map gives: its text, in capitals. -/
def Value.hostName (host : Value) : Points := UpperCase.ofPoints host.points

namespace Config

/-- Reports a fault whose wording spells the given values. -/
def refuse {α : Type} (spelled : List Value) (fault : ConfigFault) : Except ConfigFault α :=
  .error (if Value.haveSpelling spelled then fault else .tooManyDigits)

/-- The integer that a value gives. -/
def integer (v : Value) : Except ConfigFault Int :=
  match v.toInteger? with
  | some n => .ok n
  | none => refuse [v] (.notInteger v)

/-- A positive integer. -/
def positive (field : String) (v : Value) : Except ConfigFault Nat := do
  let n ← integer v
  if n ≤ 0 then refuse [v] (.notPositive field v) else return n.toNat

/-- A grey level. -/
def level (v : Value) : Except ConfigFault Int := do
  let n ← integer v
  if isByte n then return n else refuse [v] (.notLevel v)

/-- The key of the keypad that a host key is bound to. -/
def boundKey (host v : Value) : Except ConfigFault Key := do
  let n ← integer v
  if h : 0 ≤ n ∧ n ≤ 15 then return ⟨n.toNat, by omega⟩ else refuse [v, host] (.notKey host v)

/-- The value of a field, or the default if it is absent. -/
def field {α : Type} (entries : List (Value × Value)) (name : String) (default : α)
    (read : Value → Except ConfigFault α) : Except ConfigFault α :=
  match Value.get? entries name with
  | none => .ok default
  | some v => read v

/-- The entries of a section; a section that is absent has none. -/
def sectionEntries (entries : List (Value × Value)) (name : String) :
    Except ConfigFault (List (Value × Value)) :=
  match Value.get? entries name with
  | none => .ok []
  | some (.map inner) => .ok inner
  | some _ => .error (.sectionNotMapping name)

/-- The palette section. -/
def readPalette (entries : List (Value × Value)) : Except ConfigFault Palette := do
  let inner ← sectionEntries entries "palette"
  let standard : Palette := {}
  let background ← field inner "background" standard.background level
  let foreground ← field inner "foreground" standard.foreground level
  return { background, foreground }

/-- The bindings with one more. -/
def bindKey (b : Bindings Key) (host : Value) (key : Key) : Except ConfigFault (Bindings Key) :=
  if host.hasSpelling then .ok (b.set host.hostName key) else .error .tooManyDigits

/-- The bindings with those of some entries added. -/
def bindAll (b : Bindings Key) : List (Value × Value) → Except ConfigFault (Bindings Key)
  | [] => .ok b
  | (host, v) :: rest =>
    match (boundKey host v).bind (bindKey b host) with
    | .error e => .error e
    | .ok b => bindAll b rest

/-- The key map section: the usual bindings and those of its entries. -/
def readKeyMap (entries : List (Value × Value)) : Except ConfigFault (Bindings Key) := do
  let inner ← sectionEntries entries "key_map"
  bindAll .usual inner

/-- The seed of the random bytes; null is none. -/
def readSeed (entries : List (Value × Value)) : Except ConfigFault (Option Int) :=
  match Value.get? entries "random_seed" with
  | none => .ok none
  | some .null => .ok none
  | some v => (integer v).map some

/-- The configuration that a mapping with the given entries describes. -/
def ofEntries (entries : List (Value × Value)) : Except ConfigFault Config := do
  let standard : Config := {}
  let palette ← readPalette entries
  let keyMap ← readKeyMap entries
  let cpuHz ← field entries "cpu_hz" standard.cpuHz (positive "cpu_hz")
  let timerHz ← field entries "timer_hz" standard.timerHz (positive "timer_hz")
  let spriteWrap ← field entries "sprite_wrap" standard.spriteWrap fun v => .ok v.isTrue
  let stackDepth ← field entries "stack_depth" standard.stackDepth (positive "stack_depth")
  let randomSeed ← readSeed entries
  let displayScale ← field entries "display_scale" standard.displayScale (positive "display_scale")
  return { cpuHz, timerHz, spriteWrap, stackDepth, randomSeed, displayScale, palette, keyMap }

/-- The configuration that a document describes. -/
def ofValue : Value → Except ConfigFault Config
  | .map entries => ofEntries entries
  | _ => .error .notMapping

/-- The configuration of a document that may also be absent: any false value counts as an empty
mapping. -/
def ofDocument (v : Value) : Except ConfigFault Config :=
  ofValue (if v.isTrue then v else .map [])

end Config

end Chip8
