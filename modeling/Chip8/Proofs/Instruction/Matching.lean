import Chip8.Instruction
import Mathlib.Data.List.Infix
import Mathlib.Data.List.TakeDrop

set_option autoImplicit false

/-! # Calls and returns match like brackets

In a sequence of executed instructions a return belongs to the last call before it that has no
return yet. A call has not returned as long as every prefix of what follows it has at most as many
returns as calls (`Inside`). The addresses behind the calls that have not returned are the
*outstanding* ones (`outstanding`), and the returns that belong to no call of the sequence *escape*
from it (`escapes`).

These are notions about sequences alone. A stack on which each call puts the address behind it, and
from which each return takes one, holds the outstanding addresses on top of those which the escaping
returns have left (`foldl_transfer`).
-/

namespace Chip8

/-- An instruction that was executed, and the address where it stood. -/
structure Execution where
  address : Int
  instruction : Instruction
deriving DecidableEq, Repr

namespace Execution

/-- Whether the instruction is a call. -/
def isCall (x : Execution) : Bool :=
  match x.instruction with
  | .call _ => true
  | _ => false

/-- Whether the instruction is a return. -/
def isRet (x : Execution) : Bool :=
  match x.instruction with
  | .ret => true
  | _ => false

/-- The number of calls in a sequence. -/
def calls (xs : List Execution) : Nat := xs.countP isCall

/-- The number of returns in a sequence. -/
def returns (xs : List Execution) : Nat := xs.countP isRet

/-- Every prefix of a sequence has at most as many returns as calls, so that the sequence does not
leave the subroutine in which it begins. -/
def Inside (xs : List Execution) : Prop := ∀ pre, pre <+: xs → returns pre ≤ calls pre

/-- The number of returns of a sequence that belong to calls before it. -/
def escapes : List Execution → Nat
  | [] => 0
  | x :: xs =>
    if x.isCall then escapes xs - 1
    else if x.isRet then escapes xs + 1
    else escapes xs

/-- An instruction is a call, or a return, or neither. -/
theorem kinds (x : Execution) :
    (x.isCall = true ∧ x.isRet = false) ∨ (x.isCall = false ∧ x.isRet = true) ∨
      (x.isCall = false ∧ x.isRet = false) := by
  obtain ⟨address, i⟩ := x
  cases i with
  | call nnn => exact .inl ⟨rfl, rfl⟩
  | ret => exact .inr (.inl ⟨rfl, rfl⟩)
  | _ => exact .inr (.inr ⟨rfl, rfl⟩)

theorem calls_cons (x : Execution) (xs : List Execution) :
    calls (x :: xs) = calls xs + if x.isCall then 1 else 0 := List.countP_cons

theorem returns_cons (x : Execution) (xs : List Execution) :
    returns (x :: xs) = returns xs + if x.isRet then 1 else 0 := List.countP_cons

/-- What escapes from a sequence is the greatest excess of returns over calls in a prefix. -/
theorem escapes_le_iff {xs : List Execution} {k : Nat} :
    escapes xs ≤ k ↔ ∀ pre, pre <+: xs → returns pre ≤ calls pre + k := by
  -- a call in front makes room for one more return, and a return takes it
  induction xs generalizing k with
  | nil =>
      constructor
      · intro _ pre hpre
        rw [List.prefix_nil.1 hpre]
        exact Nat.zero_le _
      · intro _
        exact Nat.zero_le k
  | cons x xs ih =>
      have hcons : (∀ pre, pre <+: x :: xs → returns pre ≤ calls pre + k) ↔
          ∀ pre, pre <+: xs → returns (x :: pre) ≤ calls (x :: pre) + k := by
        constructor
        · intro h pre hpre
          exact h (x :: pre) (List.cons_prefix_cons.2 ⟨rfl, hpre⟩)
        · intro h pre hpre
          rcases List.prefix_cons_iff.1 hpre with rfl | ⟨rest, rfl, hrest⟩
          · exact Nat.zero_le _
          · exact h rest hrest
      rw [hcons]
      rcases x.kinds with ⟨hc, hr⟩ | ⟨hc, hr⟩ | ⟨hc, hr⟩
      · simp only [escapes, calls_cons, returns_cons, hc, hr, if_true, Bool.false_eq_true, if_false]
        have hroom : escapes xs - 1 ≤ k ↔ escapes xs ≤ k + 1 := by omega
        rw [hroom, ih]
        refine forall_congr' fun pre => imp_congr_right fun _ => ?_
        omega
      · simp only [escapes, calls_cons, returns_cons, hc, hr, if_true, Bool.false_eq_true, if_false]
        cases k with
        | zero =>
            constructor
            · intro h
              omega
            · intro h
              -- the return alone is a prefix with more returns than calls
              have hret : 0 + 1 ≤ 0 + 0 + 0 := h [] List.nil_prefix
              omega
        | succ k =>
            have hroom : escapes xs + 1 ≤ k + 1 ↔ escapes xs ≤ k := by omega
            rw [hroom, ih]
            refine forall_congr' fun pre => imp_congr_right fun _ => ?_
            omega
      · simp only [escapes, calls_cons, returns_cons, hc, hr, Bool.false_eq_true, if_false]
        exact ih

theorem inside_iff {xs : List Execution} : Inside xs ↔ escapes xs = 0 := by
  rw [← Nat.le_zero, escapes_le_iff]
  exact Iff.rfl

instance : DecidablePred Inside := fun _ => decidable_of_iff _ inside_iff.symm

/-- The addresses behind the calls of a sequence that have not returned, the oldest call first. -/
def outstanding : List Execution → List Int
  | [] => []
  | x :: xs =>
    if x.isCall = true ∧ Inside xs then (x.address + 2) :: outstanding xs else outstanding xs

theorem outstanding_cons_call {x : Execution} (hx : x.isCall = true) {xs : List Execution}
    (hxs : Inside xs) : outstanding (x :: xs) = (x.address + 2) :: outstanding xs := by
  rw [outstanding, if_pos ⟨hx, hxs⟩]

/-- Every call is outstanding, unless it has one of the returns that do not escape. -/
theorem length_outstanding (xs : List Execution) :
    (outstanding xs).length + returns xs = calls xs + escapes xs := by
  induction xs with
  | nil => rfl
  | cons x xs ih =>
      simp only [outstanding, escapes, calls_cons, returns_cons, inside_iff]
      rcases x.kinds with ⟨hc, hr⟩ | ⟨hc, hr⟩ | ⟨hc, hr⟩
      · simp only [hc, hr, true_and, if_true, Bool.false_eq_true, if_false]
        split
        · rw [List.length_cons]
          omega
        · omega
      · simp only [hc, hr, Bool.false_eq_true, false_and, if_true, if_false]
        omega
      · simp only [hc, hr, Bool.false_eq_true, false_and, if_false]
        omega

/-- A body that has as many returns as calls, and does not leave its subroutine, leaves nothing
outstanding. -/
theorem outstanding_eq_nil {xs : List Execution} (hxs : Inside xs) (h : calls xs = returns xs) :
    outstanding xs = [] := by
  have hlength := length_outstanding xs
  rw [inside_iff.1 hxs] at hlength
  exact List.length_eq_zero_iff.1 (by omega)

/-! ## The stack of a sequence -/

/-- What an instruction makes of a stack of return addresses, the oldest one first. -/
def transfer (stack : List Int) (x : Execution) : List Int :=
  match x.instruction with
  | .call _ => stack ++ [x.address + 2]
  | .ret => stack.dropLast
  | _ => stack

theorem transfer_of_isCall {x : Execution} (hx : x.isCall = true) (stack : List Int) :
    x.transfer stack = stack ++ [x.address + 2] := by
  obtain ⟨address, i⟩ := x
  cases i with
  | call nnn => rfl
  | _ => cases hx

theorem transfer_of_isRet {x : Execution} (hx : x.isRet = true) (stack : List Int) :
    x.transfer stack = stack.dropLast := by
  obtain ⟨address, i⟩ := x
  cases i with
  | ret => rfl
  | _ => cases hx

theorem transfer_of_neither {x : Execution} (hc : x.isCall = false) (hr : x.isRet = false)
    (stack : List Int) : x.transfer stack = stack := by
  obtain ⟨address, i⟩ := x
  cases i with
  | call nnn => cases hc
  | ret => cases hr
  | _ => rfl

/-- Each return that escapes takes an entry from the stack, and what is outstanding comes on top of
what is left. -/
theorem foldl_transfer (xs : List Execution) (stack : List Int) :
    xs.foldl transfer stack = stack.take (stack.length - escapes xs) ++ outstanding xs := by
  induction xs generalizing stack with
  | nil =>
      show stack = stack.take stack.length ++ []
      rw [List.take_length, List.append_nil]
  | cons x xs ih =>
      rw [List.foldl_cons, ih]
      rcases x.kinds with ⟨hc, hr⟩ | ⟨hc, hr⟩ | ⟨hc, hr⟩
      · rw [transfer_of_isCall hc, List.length_append, List.length_singleton]
        rw [escapes, if_pos hc]
        by_cases hxs : Inside xs
        · have hall : (stack ++ [x.address + 2]).take (stack.length + 1 - 0) =
              stack ++ [x.address + 2] := List.take_of_length_le (by simp)
          rw [outstanding_cons_call hc hxs, inside_iff.1 hxs, hall]
          simp
        · -- the first return that escapes from the rest belongs to this call
          have hpos : 0 < escapes xs := Nat.pos_of_ne_zero fun h => hxs (inside_iff.2 h)
          have hlength : stack.length + 1 - escapes xs = stack.length - (escapes xs - 1) := by
            omega
          rw [hlength, List.take_append_of_le_length (Nat.sub_le _ _)]
          rw [outstanding, if_neg fun h => hxs h.2]
      · have hnc : ¬ x.isCall = true := by rw [hc]; exact Bool.false_ne_true
        rw [transfer_of_isRet hr, List.length_dropLast, List.dropLast_eq_take, List.take_take]
        rw [escapes, if_neg hnc, if_pos hr, outstanding, if_neg fun h => hnc h.1]
        have hlength : min (stack.length - 1 - escapes xs) (stack.length - 1) =
            stack.length - (escapes xs + 1) := by
          omega
        rw [hlength]
      · have hnc : ¬ x.isCall = true := by rw [hc]; exact Bool.false_ne_true
        have hnr : ¬ x.isRet = true := by rw [hr]; exact Bool.false_ne_true
        rw [transfer_of_neither hc hr, escapes, if_neg hnc, if_neg hnr]
        rw [outstanding, if_neg fun h => hnc h.1]

end Execution

end Chip8
