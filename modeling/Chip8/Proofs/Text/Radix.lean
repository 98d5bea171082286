import Chip8.Text.Numeral
import Chip8.Text.Radix

set_option autoImplicit false

/-! # Reading numbers in base sixteen back

A number that is written in base sixteen with capital letters is read back from its characters
(`readSigned_upper`), whatever width it was brought to: the sign stands in front of the zeros that
fill the width, and these do not count.
-/

namespace Chip8.Radix

/-- The number with the digits `cs` behind those of `n`, if these are digits. -/
def readOn (n : Nat) (cs : List Char) : Option Nat :=
  cs.foldlM (fun n c => (Numeral.digit? 16 c).map (16 * n + ·)) n

/-- The number with the given digits and a minus sign in front of them, if it is negative. -/
def readSigned : List Char → Option Int
  | '-' :: cs => (readOn 0 cs).map fun n : Nat => -(n : Int)
  | cs => (readOn 0 cs).map fun n : Nat => (n : Int)

theorem readOn_append (n : Nat) (cs ds : List Char) :
    readOn n (cs ++ ds) = (readOn n cs).bind (readOn · ds) := List.foldlM_append

theorem digit?_upper {d : Nat} (hd : d < 16) : Numeral.digit? 16 d.digitChar.toUpper = some d := by
  have hall : ∀ d : Fin 16, Numeral.digit? 16 d.val.digitChar.toUpper = some d.val := by decide
  exact hall ⟨d, hd⟩

theorem readOn_digit {d : Nat} (hd : d < 16) (n : Nat) :
    readOn n [d.digitChar.toUpper] = some (16 * n + d) := by
  simp [readOn, digit?_upper hd]

/-- The digits of a number are read as this number. -/
theorem readOn_upperDigits (n : Nat) : readOn 0 (upperDigits n) = some n := by
  -- a number below the base is its own digit, and any other has one digit more than its quotient
  unfold upperDigits
  induction n using Nat.base_induction 16 (by decide) with
  | single d hd =>
      rw [Nat.toDigits_of_lt_base hd, List.map_singleton, readOn_digit hd, Nat.mul_zero,
        Nat.zero_add]
  | digit n d hd hn ih =>
      rw [← Nat.toDigits_append_toDigits (by decide) hn hd, List.map_append, readOn_append, ih,
        Nat.toDigits_of_lt_base hd, List.map_singleton]
      exact readOn_digit hd n

/-- Zeros in front of a number do not count. -/
theorem readOn_zeros (k : Nat) : readOn 0 (List.replicate k '0') = some 0 := by
  induction k with
  | zero => rfl
  | succ k ih =>
      rw [List.replicate_succ, ← List.singleton_append, readOn_append]
      exact ih

theorem readOn_padded (k n : Nat) :
    readOn 0 (List.replicate k '0' ++ upperDigits n) = some n := by
  rw [readOn_append, readOn_zeros]
  exact readOn_upperDigits n

/-! ## The characters of a number -/

/-- What a digit in base sixteen is when it is written with a capital. -/
theorem mem_upperDigits {n : Nat} {c : Char} (h : c ∈ upperDigits n) :
    ∃ d < 16, c = d.digitChar.toUpper := by
  unfold upperDigits at h
  induction n using Nat.base_induction 16 (by decide) with
  | single d hd =>
      rw [Nat.toDigits_of_lt_base hd, List.map_singleton, List.mem_singleton] at h
      exact ⟨d, hd, h⟩
  | digit n d hd hn ih =>
      rw [← Nat.toDigits_append_toDigits (by decide) hn hd, List.map_append, List.mem_append] at h
      rcases h with h | h
      · exact ih h
      · rw [Nat.toDigits_of_lt_base hd, List.map_singleton, List.mem_singleton] at h
        exact ⟨d, hd, h⟩

/-- A number has nothing but digits, and a minus sign if it is negative. -/
theorem mem_upper {width : Nat} {n : Int} {c : Char} (h : c ∈ (upper width n).toList) :
    c = '-' ∧ n < 0 ∨ ∃ d < 16, c = d.digitChar.toUpper := by
  rw [upper, String.toList_ofList, zeroPadded, List.mem_append, List.mem_append] at h
  rcases h with (h | h) | h
  · unfold sign at h
    split at h
    · rename_i hn
      exact .inl ⟨List.mem_singleton.1 h, hn⟩
    · cases h
  · exact .inr ⟨0, by decide, (List.mem_replicate.1 h).2⟩
  · exact .inr (mem_upperDigits h)

theorem toUpper_digitChar_ne {d : Nat} (hd : d < 16) :
    d.digitChar.toUpper ≠ '-' ∧ d.digitChar.toUpper ≠ ',' := by
  have hall : ∀ d : Fin 16, d.val.digitChar.toUpper ≠ '-' ∧ d.val.digitChar.toUpper ≠ ',' := by
    decide
  exact hall ⟨d, hd⟩

theorem comma_not_mem_upper (width : Nat) (n : Int) : ',' ∉ (upper width n).toList := by
  intro h
  rcases mem_upper h with ⟨hc, _⟩ | ⟨d, hd, hc⟩
  · exact absurd hc (by decide)
  · exact (toUpper_digitChar_ne hd).2 hc.symm

/-- **A number is read back** from its characters, whatever width it was brought to. -/
theorem readSigned_upper (width : Nat) (n : Int) : readSigned (upper width n).toList = some n := by
  have htext : (upper width n).toList = sign n ++
      (List.replicate (width - (sign n).length - (upperDigits n.natAbs).length) '0' ++
        upperDigits n.natAbs) := by
    rw [upper, String.toList_ofList, zeroPadded, List.append_assoc]
  by_cases hn : n < 0
  · rw [htext, show sign n = ['-'] from if_pos hn, List.singleton_append, readSigned, readOn_padded,
      Option.map_some]
    congr 1
    omega
  · -- the first character is a digit and no sign
    have hfirst (cs : List Char) : (upper width n).toList ≠ '-' :: cs := by
      intro h
      rcases mem_upper (h ▸ List.mem_cons_self) with ⟨_, hneg⟩ | ⟨d, hd, hc⟩
      · exact hn hneg
      · exact (toUpper_digitChar_ne hd).1 hc.symm
    unfold readSigned
    split
    · rename_i cs h
      exact absurd h (hfirst cs)
    · rw [htext, show sign n = [] from if_neg hn, List.nil_append, readOn_padded, Option.map_some]
      congr 1
      omega

end Chip8.Radix
