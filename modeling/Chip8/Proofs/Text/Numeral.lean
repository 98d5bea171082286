import Chip8.Text.Numeral
import Mathlib.Data.Nat.Init
import Mathlib.Tactic.SplitIfs

set_option autoImplicit false

/-! # Numerals are read back

A number has many numerals. `IsDecimal` and `IsHexadecimal` list them: with zeros in front of the
digits, single underscores between them, and in either case in base sixteen; a decimal one also has
a sign or none, and blanks around it. All of them are read as the number (`parse?_of_isDecimal`,
`parse?_of_isHexadecimal`), and the plain spelling of a number that is not too long is among them
(`isDecimal_toString`).
-/

namespace Chip8.Numeral

/-! ## The numerals of a number -/

/-- The characters of the second list, with single underscores between some of them. -/
inductive Underscored : List Char → List Char → Prop where
  | last (c : Char) : Underscored [c] [c]
  | next (c : Char) {cs ds : List Char} : Underscored cs ds → Underscored (c :: cs) (c :: ds)
  | underscore (c : Char) {cs ds : List Char} :
      Underscored cs ds → Underscored (c :: '_' :: cs) (c :: ds)

/-- A sign that a number may have; only zero may have either. -/
def IsSign (n : Int) (sign : List Char) : Prop :=
  sign = [] ∧ 0 ≤ n ∨ sign = ['+'] ∧ 0 ≤ n ∨ sign = ['-'] ∧ n ≤ 0

/-- The decimal numerals of a number that have few enough digits. -/
inductive IsDecimal (n : Int) : List Char → Prop where
  | intro {front sign cs back : List Char} (zeros : Nat) :
      (∀ c ∈ front, Blank.isBlank c = true) → IsSign n sign →
      Underscored cs (List.replicate zeros '0' ++ Nat.toDigits 10 n.natAbs) →
      zeros + (Nat.toDigits 10 n.natAbs).length ≤ maxDecimalDigits →
      (∀ c ∈ back, Blank.isBlank c = true) → IsDecimal n (front ++ (sign ++ (cs ++ back)))

/-- The hexadecimal numerals of a number. -/
inductive IsHexadecimal (n : Nat) : List Char → Prop where
  | intro {x : Char} {cs ds : List Char} (zeros : Nat) : x = 'x' ∨ x = 'X' →
      Underscored cs ds → ds.map Char.toLower = List.replicate zeros '0' ++ Nat.toDigits 16 n →
      IsHexadecimal n ('0' :: x :: cs)

/-! ## Single characters -/

section Characters

variable {base d : Nat} {c : Char}

theorem char_le_iff {a b : Char} : a ≤ b ↔ a.toNat ≤ b.toNat := by
  rw [Char.le_def, UInt32.le_iff_toNat_le]
  rfl

theorem toNat_toLower (c : Char) : c.toLower.toNat =
    if 65 ≤ c.toNat ∧ c.toNat ≤ 90 then c.toNat + 32 else c.toNat := by
  have hcapital : 'A'.val ≤ c.val ∧ c.val ≤ 'Z'.val ↔ 65 ≤ c.toNat ∧ c.toNat ≤ 90 := by
    rw [UInt32.le_iff_toNat_le, UInt32.le_iff_toNat_le]
    rfl
  unfold Char.toLower
  by_cases h : 65 ≤ c.toNat ∧ c.toNat ≤ 90
  · rw [dif_pos (hcapital.2 h), if_pos h]
    show (c.val + 32).toNat = c.val.toNat + 32
    have hval : c.val.toNat ≤ 90 := h.2
    rw [UInt32.toNat_add, Nat.mod_eq_of_lt]
    · rfl
    · show c.val.toNat + 32 < 2 ^ 32
      omega
  · rw [dif_neg (mt hcapital.1 h), if_neg h]

/-- A digit is one of the ten usual ones, or one of the first six letters in either case. -/
theorem digit?_eq_some : digit? base c = some d ↔ d < base ∧
    (48 ≤ c.toNat ∧ c.toNat ≤ 57 ∧ d = c.toNat - 48 ∨
      97 ≤ c.toNat ∧ c.toNat ≤ 102 ∧ d = c.toNat - 87 ∨
      65 ≤ c.toNat ∧ c.toNat ≤ 70 ∧ d = c.toNat - 55) := by
  unfold digit?
  simp only [Option.filter_eq_some_iff, char_le_iff, decide_eq_true_eq, Char.reduceToNat]
  split_ifs <;> simp <;> omega

theorem digit?_digitChar (hbase : base ≤ 16) (hd : d < base) :
    digit? base d.digitChar = some d := by
  have hall : ∀ base : Fin 17, ∀ d : Fin 16, d.val < base.val →
      digit? base.val d.val.digitChar = some d.val := by decide
  exact hall ⟨base, by omega⟩ ⟨d, by omega⟩ hd

/-- The case of a digit does not matter. -/
theorem digit?_toLower (c : Char) : digit? 16 c.toLower = digit? 16 c := by
  ext d
  rw [digit?_eq_some, digit?_eq_some, toNat_toLower]
  split <;> omega

theorem isAsciiBlank_iff :
    Blank.isAsciiBlank c = true ↔ c.toNat = 32 ∨ 9 ≤ c.toNat ∧ c.toNat ≤ 13 := by
  have hspace : c = ' ' ↔ c.toNat = 32 :=
    ⟨fun h => h ▸ rfl, fun h => by rw [← Char.ofNat_toNat c, h]⟩
  simp [Blank.isAsciiBlank, hspace]

theorem ascii_of_lt (hc : c.toNat < 127) : ascii c = c := if_pos hc

/-- A digit stands for itself. -/
theorem ascii_of_digit? (h : digit? base c = some d) : ascii c = c := by
  rw [digit?_eq_some] at h
  exact ascii_of_lt (by omega)

/-- All blanks count as those of ASCII. -/
theorem isAsciiBlank_ascii (h : Blank.isBlank c = true) : Blank.isAsciiBlank (ascii c) = true := by
  unfold ascii
  by_cases hc : c.toNat < 127
  · have hall : ∀ k ∈ Blank.wide, 127 ≤ k := by decide
    have hwide : c.toNat ∉ Blank.wide := fun hmem => absurd (hall _ hmem) (by omega)
    simpa [Blank.isBlank, hwide, hc] using h
  · rw [if_neg hc, if_pos h]
    rfl

end Characters

/-! ## Runs of digits -/

/-- The characters are digits of the given values, with single underscores between some of them. -/
inductive IsRun (base : Nat) : List Char → List Nat → Prop where
  | last {c : Char} {d : Nat} : digit? base c = some d → IsRun base [c] [d]
  | next {c : Char} {d : Nat} {cs : List Char} {vs : List Nat} :
      digit? base c = some d → IsRun base cs vs → IsRun base (c :: cs) (d :: vs)
  | underscore {c : Char} {d : Nat} {cs : List Char} {vs : List Nat} :
      digit? base c = some d → IsRun base cs vs → IsRun base (c :: '_' :: cs) (d :: vs)

section Runs

variable {base d : Nat} {c : Char} {cs ds tail : List Char} {vs : List Nat}

theorem Underscored.isRun (h : Underscored cs ds) (hvs : ds.map (digit? base) = vs.map some) :
    IsRun base cs vs := by
  induction h generalizing vs with
  | last c =>
      obtain ⟨d, vs', rfl, hd, hrest⟩ := List.map_eq_cons_iff.1 hvs.symm
      obtain rfl := List.map_eq_nil_iff.1 hrest
      exact .last hd.symm
  | next c h ih =>
      obtain ⟨d, vs', rfl, hd, hrest⟩ := List.map_eq_cons_iff.1 hvs.symm
      exact .next hd.symm (ih hrest.symm)
  | underscore c h ih =>
      obtain ⟨d, vs', rfl, hd, hrest⟩ := List.map_eq_cons_iff.1 hvs.symm
      exact .underscore hd.symm (ih hrest.symm)

theorem IsRun.exists_cons (h : IsRun base cs vs) :
    ∃ c d cs' vs', cs = c :: cs' ∧ vs = d :: vs' ∧ digit? base c = some d := by
  cases h with
  | last hd => exact ⟨_, _, _, _, rfl, rfl, hd⟩
  | next hd h => exact ⟨_, _, _, _, rfl, rfl, hd⟩
  | underscore hd h => exact ⟨_, _, _, _, rfl, rfl, hd⟩

/-- A run has nothing but underscores and digits. -/
theorem IsRun.mem (h : IsRun base cs vs) (hc : c ∈ cs) :
    c = '_' ∨ ∃ d, digit? base c = some d := by
  induction h with
  | last hd => exact .inr ⟨_, List.mem_singleton.1 hc ▸ hd⟩
  | next hd h ih =>
      rcases List.mem_cons.1 hc with rfl | hc
      · exact .inr ⟨_, hd⟩
      · exact ih hc
  | underscore hd h ih =>
      rcases List.mem_cons.1 hc with rfl | hc
      · exact .inr ⟨_, hd⟩
      · rcases List.mem_cons.1 hc with rfl | hc
        · exact .inl rfl
        · exact ih hc

/-- A run stands for itself. -/
theorem IsRun.map_ascii (h : IsRun base cs vs) : cs.map ascii = cs := by
  refine (List.map_congr_left fun c hc => ?_).trans (List.map_id cs)
  rcases h.mem hc with rfl | ⟨d, hd⟩
  · rfl
  · exact ascii_of_digit? hd

theorem digitRun_digit (h : digit? base c = some d) (rest : List Char) :
    digitRun base (c :: rest) = (d :: (digitRun base rest).1, (digitRun base rest).2) := by
  rw [digitRun, h]
  rintro _ _ rfl
  cases h

/-- An underscore in front of a digit does not count. -/
theorem digitRun_underscore (h : digit? base c = some d) (rest : List Char) :
    digitRun base ('_' :: c :: rest) = digitRun base (c :: rest) := by
  rw [digitRun_digit h, digitRun, h]

theorem digitRun_blank (h : Blank.isAsciiBlank c = true) (rest : List Char) :
    digitRun base (c :: rest) = ([], c :: rest) := by
  have hnone : digit? base c = none := by
    rw [isAsciiBlank_iff] at h
    rw [Option.eq_none_iff_forall_ne_some]
    intro d hd
    rw [digit?_eq_some] at hd
    omega
  rw [digitRun, hnone]
  rintro _ _ rfl
  cases h

/-- A run is taken as a whole, up to the blanks behind it. -/
theorem digitRun_of_isRun (h : IsRun base cs vs) (htail : isTail tail = true) :
    digitRun base (cs ++ tail) = (vs, tail) := by
  have hend : digitRun base tail = ([], tail) := by
    cases tail with
    | nil => rfl
    | cons c rest =>
        rw [isTail, List.all_cons, Bool.and_eq_true] at htail
        exact digitRun_blank htail.1 rest
  induction h with
  | last hd => rw [List.singleton_append, digitRun_digit hd, hend]
  | next hd h ih => rw [List.cons_append, digitRun_digit hd, ih]
  | underscore hd h ih =>
      -- behind the underscore stands the first of the other digits
      obtain ⟨c', d', cs', vs', rfl, rfl, hd'⟩ := h.exists_cons
      rw [List.cons_append, digitRun_digit hd, List.cons_append, List.cons_append,
        digitRun_underscore hd', ← List.cons_append, ih]

end Runs

/-! ## The digits of a number -/

theorem ofDigits_concat (base : Nat) (vs : List Nat) (d : Nat) :
    ofDigits base (vs ++ [d]) = ofDigits base vs * base + d := by
  rw [ofDigits, List.foldl_append]
  rfl

theorem ofDigits_zeros (base zeros : Nat) : ofDigits base (List.replicate zeros 0) = 0 := by
  induction zeros with
  | zero => rfl
  | succ zeros ih => rw [List.replicate_succ', ofDigits_concat, ih, Nat.zero_mul]

/-- The digits of a number have its value, whatever zeros stand in front of them. -/
theorem exists_values {base : Nat} (hone : 1 < base) (hbase : base ≤ 16) (zeros n : Nat) :
    ∃ vs : List Nat, (List.replicate zeros '0' ++ Nat.toDigits base n).map (digit? base) =
      vs.map some ∧ ofDigits base vs = n := by
  -- a number below the base is its own digit, and any other has one digit more than its quotient
  induction n using Nat.base_induction base hone with
  | single d hd =>
      refine ⟨List.replicate zeros 0 ++ [d], ?_, ?_⟩
      · have hzero : digit? base '0' = some 0 := digit?_digitChar hbase (by omega : 0 < base)
        simp [Nat.toDigits_of_lt_base hd, hzero, digit?_digitChar hbase hd]
      · rw [ofDigits_concat, ofDigits_zeros, Nat.zero_mul, Nat.zero_add]
  | digit n d hd hn ih =>
      obtain ⟨vs, hvs, hvalue⟩ := ih
      refine ⟨vs ++ [d], ?_, ?_⟩
      · rw [← Nat.toDigits_append_toDigits hone hn hd, Nat.toDigits_of_lt_base hd,
          ← List.append_assoc, List.map_append, hvs, List.map_singleton,
          digit?_digitChar hbase hd, List.map_append, List.map_singleton]
      · rw [ofDigits_concat, hvalue, Nat.mul_comm]

/-! ## Reading numerals -/

section Reading

variable {cs ds tail : List Char} {vs : List Nat} {s : String}

theorem unsigned?_of_isRun (h : IsRun 10 cs vs) (hlength : vs.length ≤ maxDecimalDigits)
    (htail : isTail tail = true) : unsigned? (cs ++ tail) = some (ofDigits 10 vs) := by
  have hrun := digitRun_of_isRun h htail
  obtain ⟨c, d, cs', vs', rfl, rfl, hd⟩ := h.exists_cons
  unfold unsigned?
  split
  · rename_i heq
    cases heq
    cases hd
  · rw [hrun]
    simpa [htail] using hlength

theorem hexadecimal?_of_isRun (h : IsRun 16 cs vs) :
    hexadecimal? cs = some (ofDigits 16 vs : Nat) := by
  have hrun := digitRun_of_isRun h (show isTail [] = true from rfl)
  obtain ⟨c, d, cs', vs', rfl, rfl, hd⟩ := h.exists_cons
  unfold hexadecimal?
  rw [h.map_ascii, ← List.append_nil (c :: cs'), hrun]
  simp [isTail]

/-- A text without the letter of the prefix is read in base ten. -/
theorem parse?_eq_decimal? (hsmall : 'x' ∉ s.toList) (hlarge : 'X' ∉ s.toList) :
    parse? s = decimal? s := by
  unfold parse?
  split
  · rename_i heq
    exact absurd (by simp [heq]) hsmall
  · rename_i heq
    exact absurd (by simp [heq]) hlarge
  · rfl

/-- **A hexadecimal numeral is read as its number.** -/
theorem parse?_of_isHexadecimal {n : Nat} (h : IsHexadecimal n s.toList) :
    parse? s = some (n : Int) := by
  generalize hs : s.toList = text at h
  cases h with
  | @intro x cs ds zeros hx hcs hds =>
      obtain ⟨vs, hvs, hvalue⟩ := exists_values (by decide : 1 < 16) (by decide) zeros n
      have hdigits : ds.map (digit? 16) = vs.map some := by
        rw [← hvs, ← hds, List.map_map]
        exact List.map_congr_left fun c _ => (digit?_toLower c).symm
      have hread := hexadecimal?_of_isRun (hcs.isRun hdigits)
      rw [hvalue] at hread
      unfold parse?
      rw [hs]
      rcases hx with rfl | rfl <;> exact hread

/-- What a decimal numeral consists of. -/
theorem IsDecimal.mem {n : Int} {text : List Char} (h : IsDecimal n text) {c : Char}
    (hc : c ∈ text) :
    Blank.isBlank c = true ∨ c = '+' ∨ c = '-' ∨ c = '_' ∨ ∃ d, digit? 10 c = some d := by
  cases h with
  | @intro front sign cs back zeros hfront hsign hcs hlength hback =>
      obtain ⟨vs, hvs, _⟩ := exists_values (by decide : 1 < 10) (by decide) zeros n.natAbs
      simp only [List.mem_append] at hc
      rcases hc with hc | hc | hc | hc
      · exact .inl (hfront c hc)
      · rcases hsign with ⟨rfl, _⟩ | ⟨rfl, _⟩ | ⟨rfl, _⟩
        · cases hc
        · exact .inr (.inl (List.mem_singleton.1 hc))
        · exact .inr (.inr (.inl (List.mem_singleton.1 hc)))
      · exact .inr (.inr (.inr ((hcs.isRun hvs).mem hc)))
      · exact .inl (hback c hc)

theorem IsDecimal.not_mem {n : Int} {text : List Char} (h : IsDecimal n text) {c : Char}
    (hblank : Blank.isBlank c = false) (hsign : c ≠ '+' ∧ c ≠ '-' ∧ c ≠ '_')
    (hdigit : digit? 10 c = none) : c ∉ text := by
  intro hc
  rcases h.mem hc with hc | hc | hc | hc | ⟨d, hd⟩
  · exact absurd hc (by simp [hblank])
  · exact hsign.1 hc
  · exact hsign.2.1 hc
  · exact hsign.2.2 hc
  · exact absurd hd (by simp [hdigit])

section Signed

variable {first : Char} {rest : List Char}

theorem decimal?_of_minus (h : (s.toList.map ascii).dropWhile Blank.isAsciiBlank = '-' :: rest) :
    decimal? s = (unsigned? rest).map fun m : Nat => -(m : Int) := by
  rw [decimal?, h]
  split
  · rename_i heq
    obtain rfl := (List.cons.inj heq).2
    cases unsigned? rest <;> rfl
  · rename_i heq
    exact absurd (List.cons.inj heq).1 (by decide)
  · rename_i hno _
    exact absurd rfl (hno rest)

theorem decimal?_of_plus (h : (s.toList.map ascii).dropWhile Blank.isAsciiBlank = '+' :: rest) :
    decimal? s = (unsigned? rest).map fun m : Nat => (m : Int) := by
  rw [decimal?, h]
  split
  · rename_i heq
    exact absurd (List.cons.inj heq).1 (by decide)
  · rename_i heq
    obtain rfl := (List.cons.inj heq).2
    cases unsigned? rest <;> rfl
  · rename_i hno
    exact absurd rfl (hno rest)

theorem decimal?_of_plain (h : (s.toList.map ascii).dropWhile Blank.isAsciiBlank = first :: rest)
    (hplus : first ≠ '+') (hminus : first ≠ '-') :
    decimal? s = (unsigned? (first :: rest)).map fun m : Nat => (m : Int) := by
  rw [decimal?, h]
  split
  · rename_i heq
    exact absurd (List.cons.inj heq).1 hminus
  · rename_i heq
    exact absurd (List.cons.inj heq).1 hplus
  · cases unsigned? (first :: rest) <;> rfl

end Signed

/-- **A decimal numeral is read as its number.** -/
theorem parse?_of_isDecimal {n : Int} (h : IsDecimal n s.toList) : parse? s = some n := by
  rw [parse?_eq_decimal? (h.not_mem (by decide) (by decide) rfl)
    (h.not_mem (by decide) (by decide) rfl)]
  generalize hs : s.toList = text at h
  cases h with
  | @intro front sign cs back zeros hfront hsign hcs hlength hback =>
      obtain ⟨vs, hvs, hvalue⟩ := exists_values (by decide : 1 < 10) (by decide) zeros n.natAbs
      have hrun := hcs.isRun hvs
      have hcount : vs.length ≤ maxDecimalDigits := by
        have hlengths := congrArg List.length hvs
        simp only [List.length_map, List.length_append, List.length_replicate] at hlengths
        omega
      have htail : isTail (back.map ascii) = true := by
        simpa [isTail] using fun c hc => isAsciiBlank_ascii (hback c hc)
      have hread := unsigned?_of_isRun hrun hcount htail
      rw [hvalue] at hread
      -- the blanks in front are dropped, and what follows them does not begin with a blank
      have hdrop (first : Char) (rest : List Char) (hfirst : Blank.isAsciiBlank first = false)
          (htext : sign ++ (cs ++ back.map ascii) = first :: rest) :
          (s.toList.map ascii).dropWhile Blank.isAsciiBlank = first :: rest := by
        have hsigns : sign.map ascii = sign := by
          rcases hsign with ⟨rfl, _⟩ | ⟨rfl, _⟩ | ⟨rfl, _⟩ <;> rfl
        rw [hs, List.map_append, List.map_append, List.map_append, hrun.map_ascii, hsigns, htext,
          List.dropWhile_append_of_pos, List.dropWhile_cons_of_neg (by simp [hfirst])]
        simpa using fun c hc => isAsciiBlank_ascii (hfront c hc)
      rcases hsign with ⟨rfl, hn⟩ | ⟨rfl, hn⟩ | ⟨rfl, hn⟩
      · obtain ⟨c, d, cs', vs', rfl, rfl, hd⟩ := hrun.exists_cons
        rw [digit?_eq_some] at hd
        have hblank : Blank.isAsciiBlank c = false := by
          rw [Bool.eq_false_iff, ne_eq, isAsciiBlank_iff]
          omega
        have hplus : c ≠ '+' := by
          rintro rfl
          simp at hd
        have hminus : c ≠ '-' := by
          rintro rfl
          simp at hd
        rw [decimal?_of_plain (hdrop c (cs' ++ back.map ascii) hblank rfl) hplus hminus,
          ← List.cons_append, hread, Option.map_some, Int.natAbs_of_nonneg hn]
      · rw [decimal?_of_plus (hdrop '+' (cs ++ back.map ascii) rfl rfl), hread, Option.map_some,
          Int.natAbs_of_nonneg hn]
      · rw [decimal?_of_minus (hdrop '-' (cs ++ back.map ascii) rfl rfl), hread, Option.map_some,
          Int.ofNat_natAbs_of_nonpos hn, Int.neg_neg]

theorem Underscored.plain (h : ds ≠ []) : Underscored ds ds := by
  induction ds with
  | nil => exact absurd rfl h
  | cons c rest ih =>
      cases rest with
      | nil => exact .last c
      | cons d rest => exact .next c (ih (List.cons_ne_nil d rest))

/-- The plain spelling of a number is one of its numerals, if it is not too long. -/
theorem isDecimal_toString {n : Int} (h : (Nat.toDigits 10 n.natAbs).length ≤ maxDecimalDigits) :
    IsDecimal n (toString n).toList := by
  have hsign : ∃ sign, IsSign n sign ∧ (toString n).toList = sign ++ Nat.toDigits 10 n.natAbs := by
    rw [Int.toString_eq_repr, Int.repr_eq_if]
    by_cases hn : 0 ≤ n
    · refine ⟨[], .inl ⟨rfl, hn⟩, ?_⟩
      rw [if_pos hn, Nat.toList_repr, show n.toNat = n.natAbs by omega]
      rfl
    · refine ⟨['-'], .inr (.inr ⟨rfl, by omega⟩), ?_⟩
      rw [if_neg hn, String.toList_append, Nat.toList_repr, show (-n).toNat = n.natAbs by omega]
      rfl
  obtain ⟨sign, hsign, htext⟩ := hsign
  have hplain : Underscored (Nat.toDigits 10 n.natAbs)
      (List.replicate 0 '0' ++ Nat.toDigits 10 n.natAbs) :=
    .plain Nat.toDigits_ne_nil
  have hnumeral : IsDecimal n ([] ++ (sign ++ (Nat.toDigits 10 n.natAbs ++ []))) :=
    .intro 0 nofun hsign hplain (by omega) nofun
  rwa [List.nil_append, List.append_nil, ← htext] at hnumeral

theorem map_toLower_toDigits (n : Nat) :
    (Nat.toDigits 16 n).map Char.toLower = Nat.toDigits 16 n := by
  have hall : ∀ d : Fin 16, d.val.digitChar.toLower = d.val.digitChar := by decide
  have hdigit {d : Nat} (hd : d < 16) : d.digitChar.toLower = d.digitChar := hall ⟨d, hd⟩
  induction n using Nat.base_induction 16 (by decide) with
  | single d hd => rw [Nat.toDigits_of_lt_base hd, List.map_singleton, hdigit hd]
  | digit n d hd hn ih =>
      rw [← Nat.toDigits_append_toDigits (by decide) hn hd, List.map_append, ih,
        Nat.toDigits_of_lt_base hd, List.map_singleton, hdigit hd]

/-- So is the plain spelling in base sixteen. -/
theorem isHexadecimal_toDigits (n : Nat) :
    IsHexadecimal n ("0x" ++ String.ofList (Nat.toDigits 16 n)).toList := by
  have htext : ("0x" ++ String.ofList (Nat.toDigits 16 n)).toList =
      '0' :: 'x' :: Nat.toDigits 16 n := by
    simp
  rw [htext]
  exact .intro 0 (.inl rfl) (.plain Nat.toDigits_ne_nil) (map_toLower_toDigits n)

end Reading

end Chip8.Numeral
