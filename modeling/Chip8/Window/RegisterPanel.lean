import Chip8.Machine.Dump

set_option autoImplicit false

/-! # The register panel

The panel beside the screen shows the register dump in three groups of labels, each with the name of
a register and its value. All values are two dashes until the first dump is shown.
-/

namespace Chip8

/-- A group of labels under a title, in so many columns. -/
structure LabelGroup where
  title : String
  names : List String
  columns : Nat

/-- A text in a group and the row and column where it stands. -/
structure PlacedLabel where
  text : String
  row : Nat
  column : Nat

/-- The labels of the panel with their values, and the dump that was shown last. -/
structure RegisterPanel where
  values : List (String × String)
  dump : Option Dump := none

namespace RegisterPanel

/-- The groups from the top. -/
def groups : List LabelGroup := [
  ⟨"Pointers", ["MEM[PC]", "PC", "SP", "I", "STACK"], 1⟩,
  ⟨"General", (List.range 16).map Dump.registerName, 2⟩,
  ⟨"Timers", ["DT", "ST", "STATE"], 1⟩]

/-- The names of all labels, in order. -/
def names : List String := groups.flatMap (·.names)

/-- The panel before any dump is shown. -/
def initial : RegisterPanel := { values := names.map fun name => (name, "--") }

/-- The value of the label of a register. -/
def text (p : RegisterPanel) (name : String) : Except Fault String :=
  match p.values.lookup name with
  | some value => .ok value
  | none => .error (.unknownLabel name)

/-- Sets the value of a label. -/
def set (p : RegisterPanel) (name value : String) : RegisterPanel :=
  { p with values := p.values.map fun e => if e.1 == name then (name, value) else e }

/-- The values of the 8-bit registers from number `n` on. A register that the panel has no label for
is a fault, and those before it are set. -/
def setRegisters (p : RegisterPanel) (n : Nat) : List Int → Except Fault Unit × RegisterPanel
  | [] => (.ok (), p)
  | value :: rest =>
    let name := Dump.registerName n
    if p.values.any (·.1 == name) then
      (p.set name (Dump.registerText value)).setRegisters (n + 1) rest
    else (.error (.unknownLabel name), p)

/-- The values of the labels that are no 8-bit registers. -/
def otherTexts (d : Dump) : List (String × String) := [
  ("MEM[PC]", d.wordText), ("PC", d.pcText), ("SP", d.spText), ("I", d.iText),
  ("STACK", d.stackText), ("DT", toString d.delay), ("ST", toString d.sound), ("STATE", d.mode)]

/-- Shows a dump: first the 8-bit registers, then the others. -/
def update (p : RegisterPanel) (d : Dump) : Except Fault Unit × RegisterPanel :=
  match { p with dump := some d }.setRegisters 0 d.v with
  | (.error fault, p) => (.error fault, p)
  | (.ok (), p) => (.ok (), (otherTexts d).foldl (fun p e => p.set e.1 e.2) p)

/-- The labels of a group and where they stand: the name of a register with a colon, and its value
to the right of it. -/
def placed (p : RegisterPanel) (g : LabelGroup) : List PlacedLabel :=
  g.names.zipIdx.flatMap fun (name, k) =>
    let row := k / g.columns
    let column := k % g.columns
    [⟨name ++ ":", row, 2 * column⟩, ⟨(p.values.lookup name).getD "", row, 2 * column + 1⟩]

end RegisterPanel

end Chip8
