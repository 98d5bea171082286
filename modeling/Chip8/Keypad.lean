import Chip8.Fault

set_option autoImplicit false

/-! # The keypad

Sixteen keys are up or down. A program can also wait for a key: from then on the first key that
goes from up to down is caught, and stays caught, whatever other keys do, until it is taken or
another wait begins. A key that was already down when the wait began has to be released first.
-/

namespace Chip8

/-- The number of a key. -/
abbrev Key := Fin 16

/-- The key that a host names by a value: a whole number from 0 to 15, and nothing else. -/
def Key.ofValue : Value → Except Fault Key
  | .int n =>
    if h : 0 ≤ n ∧ n < 16 then .ok ⟨n.toNat, by omega⟩ else .error (.invalidKey (.int n))
  | given => .error (.invalidKey given)

/-- Whether a program waits for a key. -/
inductive Latch where
  /-- No program waits. -/
  | idle
  /-- A program waits, and no key has gone down since. -/
  | waiting
  /-- A program waits, and this key was the first to go down. -/
  | caught (key : Key)
deriving DecidableEq, Repr

/-- The latch after a key has gone down. -/
def Latch.catching (l : Latch) (key : Key) : Latch :=
  match l with
  | .waiting => .caught key
  | l => l

/-- The keys and the wait for one. -/
structure Keypad where
  down : Vector Bool 16 := Vector.replicate 16 false
  latch : Latch := .idle
deriving DecidableEq

namespace Keypad

/-- Whether a key is down. -/
def isDown (k : Keypad) (key : Key) : Bool := k.down[key]

/-- Whether a key goes from up to down when its state is set. -/
def goesDown (k : Keypad) (key : Key) (pressed : Bool) : Bool := !k.isDown key && pressed

/-- Sets the state of a key. -/
def set (k : Keypad) (key : Key) (pressed : Bool) : Keypad where
  down := k.down.set key.val pressed key.isLt
  latch := if k.goesDown key pressed then k.latch.catching key else k.latch

/-- Begins to wait for a key; one caught before is forgotten. -/
def await (k : Keypad) : Keypad := { k with latch := .waiting }

/-- Whether a program waits for a key. -/
def isAwaiting (k : Keypad) : Bool := k.latch != .idle

/-- The key that was caught. -/
def pending? (k : Keypad) : Option Key :=
  match k.latch with
  | .caught key => some key
  | _ => none

/-- Takes the key that was caught, which ends the wait; without one the wait goes on. -/
def take (k : Keypad) : Option Key × Keypad :=
  match k.latch with
  | .caught key => (some key, { k with latch := .idle })
  | _ => (none, k)

@[simp] theorem isDown_set (k : Keypad) (key other : Key) (pressed : Bool) :
    (k.set key pressed).isDown other = if key = other then pressed else k.isDown other := by
  simp only [isDown, set, Fin.getElem_fin, Vector.getElem_set, Fin.ext_iff]

@[simp] theorem isDown_await (k : Keypad) (key : Key) : k.await.isDown key = k.isDown key := rfl

end Keypad

end Chip8
