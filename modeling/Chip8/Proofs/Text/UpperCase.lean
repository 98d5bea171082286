import Chip8.Text.UpperCase
import Mathlib.Data.Nat.Bitwise

set_option autoImplicit false

/-! # Capitals stay as they are

A text in capitals is not changed when it is brought to capitals once more (`ofPoints_ofPoints`).
This is a fact on the tables: no capital is itself a letter that has one (`capitals_not_letters`).
There are some 1400 letters and as many capitals, so that the two sets are compared as numbers, in
whose binary digits the code points are marked.
-/

namespace Chip8.UpperCase

/-- The letters of a run. -/
def Run.letters (r : Run) : List Nat := (List.range r.count).map fun k => r.first + k * r.stride

/-- The capitals of a run. -/
def Run.capitals (r : Run) : List Nat := (List.range r.count).map fun k => r.capital + k * r.stride

/-- All letters that have a capital. -/
def letters : List Nat := runs.flatMap Run.letters ++ expansions.map Prod.fst

/-- All capitals of letters. -/
def capitals : List Nat := runs.flatMap Run.capitals ++ expansions.flatMap Prod.snd

/-- The number with the binary digits at the given places. -/
def marks (ns : List Nat) : Nat := ns.foldr (fun n m => 1 <<< n ||| m) 0

theorem testBit_marks (ns : List Nat) (n : Nat) : (marks ns).testBit n = decide (n ∈ ns) := by
  induction ns with
  | nil => simp [marks]
  | cons m ns ih =>
      have hcons : marks (m :: ns) = 1 <<< m ||| marks ns := rfl
      rw [hcons, Nat.testBit_or, ih, Nat.one_shiftLeft, Nat.testBit_two_pow]
      simp [eq_comm]

theorem marks_disjoint : marks capitals &&& marks letters = 0 := by
  decide +kernel

/-- No capital is a letter that has a capital. -/
theorem capitals_not_letters {n : Nat} (h : n ∈ capitals) : n ∉ letters := by
  intro hletter
  have hbit : (marks capitals &&& marks letters).testBit n = true := by
    rw [Nat.testBit_and, testBit_marks, testBit_marks, decide_eq_true h, decide_eq_true hletter,
      Bool.and_self]
  rw [marks_disjoint, Nat.zero_testBit] at hbit
  cases hbit

/-! ## One code point -/

theorem capital?_eq_some {r : Run} {n m : Nat} (h : r.capital? n = some m) :
    n ∈ r.letters ∧ m ∈ r.capitals := by
  unfold Run.capital? at h
  split at h
  · rename_i hrun
    simp only [Bool.and_eq_true, decide_eq_true_eq, beq_iff_eq] at hrun
    obtain ⟨⟨hfirst, hlast⟩, hstride⟩ := hrun
    cases h
    -- it is the `k`-th letter of the run
    have hk : (n - r.first) / r.stride < r.count :=
      Nat.div_lt_of_lt_mul (by rw [Nat.mul_comm]; omega)
    have hmul : (n - r.first) / r.stride * r.stride = n - r.first :=
      Nat.div_mul_cancel (Nat.dvd_of_mod_eq_zero hstride)
    exact ⟨List.mem_map.2 ⟨_, List.mem_range.2 hk, by omega⟩,
      List.mem_map.2 ⟨_, List.mem_range.2 hk, by omega⟩⟩
  · cases h

/-- The capital of a code point is made of capitals, unless the code point stays. -/
theorem mem_ofPoint {n m : Nat} (h : m ∈ ofPoint n) : m ∈ capitals ∨ ofPoint n = [n] := by
  unfold ofPoint at h ⊢
  cases hrun : runs.findSome? (·.capital? n) with
  | some capital =>
      obtain ⟨r, hr, hm⟩ := List.exists_of_findSome?_eq_some hrun
      rw [hrun] at h
      rw [List.mem_singleton.1 h]
      exact .inl (List.mem_append_left _ (List.mem_flatMap.2 ⟨r, hr, (capital?_eq_some hm).2⟩))
  | none =>
      rw [hrun] at h
      cases hfind : expansions.find? (·.1 == n) with
      | some e =>
          rw [hfind] at h
          exact .inl (List.mem_append_right _
            (List.mem_flatMap.2 ⟨e, List.mem_of_find?_eq_some hfind, h⟩))
      | none => exact .inr rfl

/-- What is no letter with a capital stays. -/
theorem ofPoint_of_not_letter {n : Nat} (h : n ∉ letters) : ofPoint n = [n] := by
  have hrun : runs.findSome? (·.capital? n) = none := by
    rw [List.findSome?_eq_none_iff]
    intro r hr
    by_contra hsome
    obtain ⟨m, hm⟩ := Option.ne_none_iff_exists'.1 hsome
    exact h (List.mem_append_left _ (List.mem_flatMap.2 ⟨r, hr, (capital?_eq_some hm).1⟩))
  have hfind : expansions.find? (·.1 == n) = none := by
    rw [List.find?_eq_none]
    intro e he heq
    exact h (List.mem_append_right _ (List.mem_map.2 ⟨e, he, beq_iff_eq.1 heq⟩))
  unfold ofPoint
  rw [hrun, hfind]

/-- The capital of a code point has code points that stay. -/
theorem ofPoint_of_mem {n m : Nat} (h : m ∈ ofPoint n) : ofPoint m = [m] := by
  rcases mem_ofPoint h with hcapital | hstays
  · exact ofPoint_of_not_letter (capitals_not_letters hcapital)
  · rw [hstays] at h
    rw [List.mem_singleton.1 h, hstays]

/-! ## Texts -/

/-- **A text in capitals stays as it is.** -/
theorem ofPoints_ofPoints (p : Points) : ofPoints (ofPoints p) = ofPoints p := by
  have hstays (q : Points) (h : ∀ n ∈ q, ofPoint n = [n]) : q.flatMap ofPoint = q := by
    rw [List.flatMap_def, List.map_congr_left h, ← List.flatMap_def, List.flatMap_singleton']
  refine hstays _ fun m hm => ?_
  obtain ⟨n, -, hmem⟩ := List.mem_flatMap.1 hm
  exact ofPoint_of_mem hmem

end Chip8.UpperCase
