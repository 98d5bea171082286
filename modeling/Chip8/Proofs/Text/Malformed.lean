import Chip8.Proofs.Text.Numeral
import Mathlib.Data.List.Chain
import Mathlib.Data.List.TakeWhile

set_option autoImplicit false

/-! # Texts that are no numerals

What is read as an integer has one shape (`shape_of_parse?`): behind the prefix of base sixteen, or
in the whole text if it has none, there are at least one digit of the base, blanks, signs and single
underscores, and nothing else. So a text is refused if it has another letter, two underscores that
touch, no digit, or a sign or a blank in front of the prefix (`parse?_of_malformed`).
-/

namespace Chip8.Numeral

/-- A text begins with the prefix of base sixteen. -/
def IsPrefixed (text : List Char) : Prop := ∃ x rest, (x = 'x' ∨ x = 'X') ∧ text = '0' :: x :: rest

/-- Texts that cannot be numerals. -/
inductive Malformed : List Char → Prop where
  /-- A sign or a blank stands in front of the prefix. -/
  | marked {before after : List Char} {c x : Char} :
      c = '+' ∨ c = '-' ∨ Blank.isBlank c = true → x = 'x' ∨ x = 'X' →
      Malformed (before ++ c :: '0' :: x :: after)
  /-- Two underscores touch. -/
  | underscores {before after : List Char} : Malformed (before ++ '_' :: '_' :: after)
  /-- No character is a digit. -/
  | digitless {text : List Char} : (∀ c ∈ text, Digit.value? c = none) → Malformed text
  /-- No character behind the prefix is a digit in base sixteen. -/
  | digitlessBehind {x : Char} {rest : List Char} : x = 'x' ∨ x = 'X' →
      (∀ c ∈ rest, Digit.value? c = none ∧ c.isHexDigit = false) → Malformed ('0' :: x :: rest)
  /-- A text without the prefix has a letter. -/
  | letter {text : List Char} {c : Char} :
      ¬ IsPrefixed text → c ∈ text → c.isAlpha = true → Malformed text
  /-- Behind the prefix stands a letter that is no digit in base sixteen. -/
  | letterBehind {x c : Char} {rest : List Char} : x = 'x' ∨ x = 'X' →
      c ∈ rest → c.isAlpha = true → c.isHexDigit = false → Malformed ('0' :: x :: rest)

/-! ## The shape of numerals -/

/-- What may stand around the digits: blanks and signs. -/
def IsMark (c : Char) : Prop := Blank.isAsciiBlank c = true ∨ c = '+' ∨ c = '-'

/-- No two underscores touch. -/
def Apart (cs : List Char) : Prop := cs.IsChain fun a b => ¬ (a = '_' ∧ b = '_')

/-- Digits, blanks, signs and single underscores, with one digit at least. -/
structure IsShaped (base : Nat) (cs : List Char) : Prop where
  mem : ∀ c ∈ cs, IsMark c ∨ c = '_' ∨ ∃ d, digit? base c = some d
  apart : Apart cs
  digit : ∃ c ∈ cs, ∃ d, digit? base c = some d

section Shape

variable {base d : Nat} {c : Char} {cs front : List Char}

theorem IsMark.ne_underscore (h : IsMark c) : c ≠ '_' := by
  rintro rfl
  revert h
  unfold IsMark
  decide

theorem ne_underscore_of_digit? (h : digit? base c = some d) : c ≠ '_' := by
  rintro rfl
  cases h

theorem Apart.cons (h : Apart cs) (hc : c ≠ '_') : Apart (c :: cs) :=
  List.isChain_cons.2 ⟨fun _ _ hboth => hc hboth.1, h⟩

theorem Apart.of_marks (h : ∀ c ∈ cs, IsMark c) : Apart cs := by
  induction cs with
  | nil => exact .nil
  | cons c rest ih =>
      obtain ⟨hc, hrest⟩ := List.forall_mem_cons.1 h
      exact (ih hrest).cons hc.ne_underscore

theorem not_apart {before after : List Char} : ¬ Apart (before ++ '_' :: '_' :: after) := by
  intro h
  have htouch := List.IsChain.right_of_append h
  exact (List.isChain_cons_cons.1 htouch).1 ⟨rfl, rfl⟩

/-- Marks in front do not change the shape. -/
theorem IsShaped.append (h : IsShaped base cs) (hfront : ∀ c ∈ front, IsMark c) :
    IsShaped base (front ++ cs) := by
  induction front with
  | nil => exact h
  | cons c rest ih =>
      obtain ⟨hc, hrest⟩ := List.forall_mem_cons.1 hfront
      obtain ⟨hmem, hapart, digit, hdigit, hd⟩ := ih hrest
      exact ⟨List.forall_mem_cons.2 ⟨.inl hc, hmem⟩, hapart.cons hc.ne_underscore,
        digit, List.mem_cons_of_mem c hdigit, hd⟩

/-- A run that ends at blanks, or at the end, has no foreign characters. -/
theorem mem_apart_of_isTail (h : isTail (digitRun base cs).2 = true) :
    (∀ c ∈ cs, IsMark c ∨ c = '_' ∨ ∃ d, digit? base c = some d) ∧ Apart cs := by
  have hblank {cs : List Char} (h : isTail cs = true) : ∀ c ∈ cs, IsMark c := by
    rw [isTail, List.all_eq_true] at h
    exact fun c hc => .inl (h c hc)
  -- a run leaves what the rest of it leaves, so that the blanks at its end carry through
  fun_induction digitRun base cs with
  | case1 => exact ⟨List.forall_mem_nil _, .nil⟩
  | case2 c rest d hd ds after hrun ih =>
      rw [hrun] at ih
      obtain ⟨hmem, hapart⟩ := ih h
      have hc := ne_underscore_of_digit? hd
      refine ⟨List.forall_mem_cons.2 ⟨.inr (.inl rfl), List.forall_mem_cons.2
        ⟨.inr (.inr ⟨d, hd⟩), hmem⟩⟩, ?_⟩
      exact List.isChain_cons_cons.2 ⟨fun hboth => hc hboth.2, hapart.cons hc⟩
  | case3 c rest hnone => exact absurd rfl (hblank h '_' List.mem_cons_self).ne_underscore
  | case4 c rest hno d hd ds after hrun ih =>
      rw [hrun] at ih
      obtain ⟨hmem, hapart⟩ := ih h
      exact ⟨List.forall_mem_cons.2 ⟨.inr (.inr ⟨d, hd⟩), hmem⟩,
        hapart.cons (ne_underscore_of_digit? hd)⟩
  | case5 c rest hno hnone => exact ⟨fun c hc => .inl (hblank h c hc), .of_marks (hblank h)⟩

theorem exists_digit_of_ne_nil (h : (digitRun base cs).1 ≠ []) :
    ∃ c ∈ cs, ∃ d, digit? base c = some d := by
  fun_cases digitRun base cs with
  | case1 => exact absurd rfl h
  | case2 c rest d hd => exact ⟨c, by simp, d, hd⟩
  | case3 c rest hnone =>
      rw [digitRun, hnone] at h
      exact absurd rfl h
  | case4 c rest hno d hd => exact ⟨c, by simp, d, hd⟩
  | case5 c rest hno hnone =>
      rw [digitRun.eq_3 _ _ _ hno, hnone] at h
      exact absurd rfl h

theorem IsShaped.of_digitRun (hne : (digitRun base cs).1 ≠ [])
    (htail : isTail (digitRun base cs).2 = true) : IsShaped base cs := by
  obtain ⟨hmem, hapart⟩ := mem_apart_of_isTail htail
  exact ⟨hmem, hapart, exists_digit_of_ne_nil hne⟩

theorem shape_of_unsigned? {n : Nat} (h : unsigned? cs = some n) : IsShaped 10 cs := by
  unfold unsigned? at h
  split at h
  · cases h
  · dsimp only at h
    split_ifs at h with hrun
    simp only [Bool.or_eq_true, Bool.not_eq_true', List.isEmpty_iff, not_or,
      Bool.not_eq_false] at hrun
    exact .of_digitRun hrun.1.1 hrun.1.2

theorem shape_of_hexadecimal? {n : Int} (h : hexadecimal? cs = some n) :
    IsShaped 16 (cs.map ascii) := by
  unfold hexadecimal? at h
  dsimp only at h
  split_ifs at h with hrun
  simp only [Bool.or_eq_true, Bool.not_eq_true', List.isEmpty_iff, not_or,
    Bool.not_eq_false] at hrun
  exact .of_digitRun hrun.1 hrun.2

end Shape

section Parse

variable {s : String} {n : Int}

theorem shape_of_decimal? (h : decimal? s = some n) : IsShaped 10 (s.toList.map ascii) := by
  have hblank : ∀ c ∈ (s.toList.map ascii).takeWhile Blank.isAsciiBlank, IsMark c :=
    fun c hc => .inl (List.mem_takeWhile_imp hc)
  have hread {f : Int → Int} {cs : List Char}
      (h : Option.map f (do let m ← unsigned? cs; pure (m : Int)) = some n) : IsShaped 10 cs := by
    cases hcs : unsigned? cs with
    | none => simp [hcs] at h
    | some m => exact shape_of_unsigned? hcs
  rw [← List.takeWhile_append_dropWhile (p := Blank.isAsciiBlank) (l := s.toList.map ascii)]
  refine IsShaped.append ?_ hblank
  unfold decimal? at h
  split at h
  · rename_i rest hrest
    rw [hrest]
    exact (hread h).append (show ∀ c ∈ ['-'], IsMark c by simp [IsMark])
  · rename_i rest hrest
    rw [hrest]
    exact (hread h).append (show ∀ c ∈ ['+'], IsMark c by simp [IsMark])
  · exact hread h

theorem shape_of_parse? (h : parse? s = some n) : IsShaped 10 (s.toList.map ascii) ∨
    ∃ x rest, (x = 'x' ∨ x = 'X') ∧ s.toList = '0' :: x :: rest ∧ IsShaped 16 (rest.map ascii) := by
  unfold parse? at h
  split at h
  · rename_i rest hs
    exact .inr ⟨'x', rest, .inl rfl, hs, shape_of_hexadecimal? h⟩
  · rename_i rest hs
    exact .inr ⟨'X', rest, .inr rfl, hs, shape_of_hexadecimal? h⟩
  · exact .inl (shape_of_decimal? h)

end Parse

/-! ## Foreign characters -/

section Foreign

variable {base d : Nat} {c : Char}

theorem isAlpha_iff :
    c.isAlpha = true ↔ 97 ≤ c.toNat ∧ c.toNat ≤ 122 ∨ 65 ≤ c.toNat ∧ c.toNat ≤ 90 := by
  show (decide ('A'.val ≤ c.val ∧ c.val ≤ 'Z'.val) ||
    (decide ('a'.val ≤ c.val) && decide (c.val ≤ 'z'.val))) = true ↔ _
  simp only [Bool.or_eq_true, Bool.and_eq_true, decide_eq_true_eq, UInt32.le_iff_toNat_le]
  exact or_comm

theorem isHexDigit_of_digit? (h : digit? base c = some d) : c.isHexDigit = true := by
  rw [digit?_eq_some] at h
  simp [Char.isHexDigit, Char.isDigit, UInt32.le_iff_toNat_le]
  omega

/-- A character that counts as a digit is a decimal digit of some script, or a digit of the base. -/
theorem value?_or_digit? (h : digit? base (ascii c) = some d) :
    (∃ k, Digit.value? c = some k) ∨ digit? base c = some d := by
  unfold ascii at h
  split_ifs at h with hc hblank
  · exact .inr h
  · cases h
  · cases hvalue : Digit.value? c with
    | none => simp [hvalue, digit?] at h
    | some k => exact .inl ⟨k, rfl⟩

theorem exists_value?_of_digit? (h : digit? 10 c = some d) : ∃ k, Digit.value? c = some k := by
  rw [digit?_eq_some] at h
  rw [← Option.isSome_iff_exists, Digit.value?, Option.isSome_map, List.find?_isSome]
  refine ⟨0x30, by decide, ?_⟩
  rw [Bool.and_eq_true, decide_eq_true_eq, decide_eq_true_eq]
  omega

/-- A letter is neither a mark nor an underscore. -/
theorem not_mark_of_isAlpha (h : c.isAlpha = true) : ¬ (IsMark c ∨ c = '_') := by
  rw [isAlpha_iff] at h
  rintro ((hblank | rfl | rfl) | rfl)
  · rw [isAsciiBlank_iff] at hblank
    omega
  · simp at h
  · simp at h
  · simp at h

theorem IsShaped.not_mem {cs : List Char} (h : IsShaped base (cs.map ascii))
    (halpha : c.isAlpha = true) (hdigit : ∀ d, digit? base c ≠ some d) : c ∉ cs := by
  intro hc
  have hascii : ascii c = c := by
    rw [isAlpha_iff] at halpha
    exact ascii_of_lt (by omega)
  rcases h.mem c (hascii ▸ List.mem_map_of_mem hc) with hmark | hmark | ⟨d, hd⟩
  · exact not_mark_of_isAlpha halpha (.inl hmark)
  · exact not_mark_of_isAlpha halpha (.inr hmark)
  · exact hdigit d hd

end Foreign

section Refusal

variable {text rest : List Char} {x : Char}

theorem isAlpha_prefixLetter (hx : x = 'x' ∨ x = 'X') : x.isAlpha = true := by
  rcases hx with rfl | rfl <;> rfl

theorem digit?_prefixLetter {base : Nat} (hx : x = 'x' ∨ x = 'X') (d : Nat) :
    digit? base x ≠ some d := by
  rcases hx with rfl | rfl <;> exact nofun

theorem not_malformed_of_decimal (h : IsShaped 10 (text.map ascii)) : ¬ Malformed text := by
  have hprefix {x : Char} (hx : x = 'x' ∨ x = 'X') : x ∉ text :=
    h.not_mem (isAlpha_prefixLetter hx) (digit?_prefixLetter hx)
  intro hbad
  cases hbad with
  | marked _ hx => exact hprefix hx (by simp)
  | underscores =>
      have hapart := h.apart
      rw [List.map_append] at hapart
      exact not_apart hapart
  | digitless hnone =>
      obtain ⟨c', hc', d, hd⟩ := h.digit
      obtain ⟨c, hc, rfl⟩ := List.mem_map.1 hc'
      obtain ⟨k, hk⟩ : ∃ k, Digit.value? c = some k :=
        (value?_or_digit? hd).elim id exists_value?_of_digit?
      exact absurd (hnone c hc) (by simp [hk])
  | digitlessBehind hx _ => exact hprefix hx (by simp)
  | letter _ hc halpha =>
      refine h.not_mem halpha (fun d hd => ?_) hc
      rw [isAlpha_iff] at halpha
      rw [digit?_eq_some] at hd
      omega
  | letterBehind hx _ _ _ => exact hprefix hx (by simp)

theorem not_malformed_of_hexadecimal (hx : x = 'x' ∨ x = 'X') (h : IsShaped 16 (rest.map ascii)) :
    ¬ Malformed ('0' :: x :: rest) := by
  intro hbad
  generalize htext : '0' :: x :: rest = text at hbad
  cases hbad with
  | @marked before after c y hc hy =>
      refine h.not_mem (isAlpha_prefixLetter hy) (digit?_prefixLetter hy) ?_
      -- the second prefix begins behind the first character
      cases before with
      | nil =>
          cases htext
          rcases hx with hx | hx <;> cases hx
      | cons b before =>
          cases before with
          | nil =>
              cases htext
              simp
          | cons b' before =>
              cases htext
              simp
  | @underscores before after =>
      have hmark : x ≠ '_' := by rcases hx with rfl | rfl <;> decide
      have hascii : ('0' :: x :: rest).map ascii = '0' :: x :: rest.map ascii := by
        rcases hx with rfl | rfl <;> rfl
      have hapart : Apart (('0' :: x :: rest).map ascii) :=
        hascii ▸ (h.apart.cons hmark).cons (by decide)
      rw [htext, List.map_append] at hapart
      exact not_apart hapart
  | digitless hnone => exact absurd (hnone '0' (by simp [← htext])) (by decide)
  | digitlessBehind _ hnone =>
      cases htext
      obtain ⟨c', hc', d, hd⟩ := h.digit
      obtain ⟨c, hc, rfl⟩ := List.mem_map.1 hc'
      rcases value?_or_digit? hd with ⟨k, hk⟩ | hdigit
      · exact absurd (hnone c hc).1 (by simp [hk])
      · exact absurd (hnone c hc).2 (by simp [isHexDigit_of_digit? hdigit])
  | letter hno _ _ => exact hno ⟨x, rest, hx, htext.symm⟩
  | letterBehind _ hc halpha hdigit =>
      cases htext
      refine h.not_mem halpha (fun d hd => ?_) hc
      exact absurd hdigit (by simp [isHexDigit_of_digit? hd])

/-- **A malformed text is no numeral.** -/
theorem parse?_of_malformed {s : String} (h : Malformed s.toList) : parse? s = none := by
  cases hparse : parse? s with
  | none => rfl
  | some n =>
      rcases shape_of_parse? hparse with hshape | ⟨x, rest, hx, htext, hshape⟩
      · exact absurd h (not_malformed_of_decimal hshape)
      · exact absurd (htext ▸ h) (not_malformed_of_hexadecimal hx hshape)

end Refusal

end Chip8.Numeral
