import Chip8.Keypad
import Chip8.Text.UpperCase

set_option autoImplicit false

/-! # Key bindings

A host names its keys by texts, and a binding says what such a text stands for. A name may be any
text of a settings document, so that it is given by its code points. Names are compared in capitals.
The bindings keep the order in which the names first came, and the last binding of a name counts.
-/

namespace Chip8

/-- What the names of host keys stand for. -/
abbrev Bindings (α : Type) := List (Points × α)

namespace Bindings

variable {α : Type}

/-- Binds a name, in place of what it was bound to; a new name goes to the end. -/
def set : Bindings α → Points → α → Bindings α
  | [], name, value => [(name, value)]
  | e :: rest, name, value =>
    if e.1 = name then (name, value) :: rest else e :: set rest name value

/-- What a name stands for. -/
def get? (b : Bindings α) (name : Points) : Option α := (b.find? (·.1 == name)).map (·.2)

/-- The bindings with all names in capitals. -/
def capitalized (b : Bindings α) : Bindings α :=
  b.foldl (fun acc e => acc.set (UpperCase.ofPoints e.1) e.2) []

/-- What the text of a key stands for, in bindings whose names are in capitals. The empty text
stands for nothing. -/
def meaning? (b : Bindings α) (text : Points) : Option α :=
  if text.isEmpty then none else b.get? (UpperCase.ofPoints text)

/-- The bindings of the usual keyboard: four rows of four keys on the left, from `1` to `V`. -/
def usual : Bindings Key :=
  [ ("1", 0x1), ("2", 0x2), ("3", 0x3), ("4", 0xC),
    ("Q", 0x4), ("W", 0x5), ("E", 0x6), ("R", 0xD),
    ("A", 0x7), ("S", 0x8), ("D", 0x9), ("F", 0xE),
    ("Z", 0xA), ("X", 0x0), ("C", 0xB), ("V", 0xF)].map fun (name, key) => (.ofText name, key)

theorem get?_cons (e : Points × α) (b : Bindings α) (name : Points) :
    get? (e :: b) name = if e.1 = name then some e.2 else get? b name := by
  unfold get?
  rw [List.find?_cons]
  by_cases h : e.1 = name
  · simp [h]
  · rw [if_neg h, show (e.1 == name) = false from beq_eq_false_iff_ne.2 h]

/-- After a name is bound it stands for its new value, and every other name for its old one. -/
theorem get?_set (b : Bindings α) (name other : Points) (value : α) :
    get? (b.set name value) other = if name = other then some value else get? b other := by
  induction b with
  | nil => simp [set, get?_cons]
  | cons e rest ih =>
    rw [set]
    split <;> rename_i he
    · subst he
      rw [get?_cons, get?_cons]
      split <;> simp_all
    · rw [get?_cons, get?_cons, ih]
      by_cases ho : e.1 = other
      · rw [if_pos ho, if_pos ho, if_neg fun hn => he (ho.trans hn.symm)]
      · rw [if_neg ho, if_neg ho]

end Bindings

end Chip8
