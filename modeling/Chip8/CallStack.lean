import Chip8.Fault

set_option autoImplicit false

/-! # The call stack

The stack holds the return addresses of the calls that have not returned. Its depth is limited: a
push onto a full stack is a fault. A pop from an empty stack is none; it gives the address zero and
leaves the stack empty.
-/

namespace Chip8

/-- The depth of a stack unless another one is asked for. -/
def defaultStackDepth : Nat := 16

/-- A stack of return addresses, the oldest one first. -/
structure CallStack where
  /-- The greatest number of entries. -/
  depth : Nat
  /-- The depth as it was asked for, for messages. -/
  given : Value := .int depth
  entries : Array Int := #[]

namespace CallStack

/-- A value from 0 to 0xFFFF is kept, and any other goes to the nearest of these. -/
def clampWord (n : Int) : Int := max 0 (min 0xFFFF n)

/-- An empty stack of a given depth. The depth is a positive whole number; `true` counts as one. -/
def ofDepth (given : Value) : Except Fault CallStack :=
  match given.integer? with
  | some n => if 0 < n then .ok { depth := n.toNat, given } else .error .stackDepthNotPositive
  | none => .error .stackDepthNotPositive

/-- The number of return addresses held. -/
def size (s : CallStack) : Nat := s.entries.size

/-- Puts an address on top. -/
def push (s : CallStack) (address : Int) : Except Fault CallStack :=
  if s.depth ≤ s.size then .error (.stackOverflow s.given)
  else .ok { s with entries := s.entries.push (clampWord address) }

/-- The address on top, zero if there is none. -/
def top (s : CallStack) : Int := s.entries.back?.getD 0

/-- The stack without the address on top. -/
def pop (s : CallStack) : CallStack := { s with entries := s.entries.pop }

/-- The entry at an index from the oldest one on, zero where there is none. -/
def peek (s : CallStack) (index : Int) : Int :=
  if 0 ≤ index then s.entries[index.toNat]?.getD 0 else 0

/-- The stack without its entries. -/
def clear (s : CallStack) : CallStack := { s with entries := #[] }

/-! ## The view of a stack as a list -/

/-- The return addresses, the oldest one first. -/
def toList (s : CallStack) : List Int := s.entries.toList

@[simp] theorem toList_pop (s : CallStack) : s.pop.toList = s.toList.dropLast := by
  simp [pop, toList]

@[simp] theorem length_toList (s : CallStack) : s.toList.length = s.size := by
  simp [toList, size]

theorem top_eq_getLastD (s : CallStack) : s.top = s.toList.getLastD 0 := by
  simp [top, toList, List.getLastD_eq_getLast?]

theorem push_eq_ok_iff {s t : CallStack} {a : Int} :
    s.push a = .ok t ↔
      s.size < s.depth ∧ t = { s with entries := s.entries.push (clampWord a) } := by
  unfold push
  split
  · simp; omega
  · simp only [Except.ok.injEq]
    exact ⟨fun h => ⟨by omega, h.symm⟩, fun h => h.2.symm⟩

theorem push_eq_error_iff {s : CallStack} {a : Int} {e : Fault} :
    s.push a = .error e ↔ s.depth ≤ s.size ∧ e = .stackOverflow s.given := by
  unfold push
  split <;> rename_i h
  · simp only [Except.error.injEq]
    exact ⟨fun he => ⟨h, he.symm⟩, fun he => he.2.symm⟩
  · simp [h]

theorem toList_push {s t : CallStack} {a : Int} (h : s.push a = .ok t) :
    t.toList = s.toList ++ [clampWord a] := by
  obtain ⟨_, rfl⟩ := push_eq_ok_iff.1 h
  simp [toList]

theorem clampWord_of_mem {n : Int} (h : 0 ≤ n ∧ n ≤ 0xFFFF) : clampWord n = n := by
  unfold clampWord; omega

end CallStack

end Chip8
