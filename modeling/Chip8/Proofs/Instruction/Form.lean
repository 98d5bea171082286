import Chip8.Instruction.Decode
import Mathlib.Tactic.FinCases
import Mathlib.Tactic.NormNum

set_option autoImplicit false

/-! # The forms of instruction words

Instructions are listed by the *form* of their words: four digits in base sixteen, the highest one
first, where a small letter stands for any digit. There are 34 forms (`forms`).

A word of 16 bits decodes as the instruction whose form it fits (`fits_iff`), and as no instruction
if it fits none (`decode_eq_unknown_iff`). So a statement about forms says which words it is about
without reference to how they are decoded.
-/

namespace Chip8

/-! ## The digits of a word -/

namespace Word

/-- The digit that a character of a form asks for; a small letter asks for none. -/
def formDigit? (c : Char) : Option Nat := "0123456789ABCDEF".toList.idxOf? c

/-- Whether a word has the digits that a form asks for. -/
def fits (w : Word) (form : String) : Bool :=
  (form.toList.zip [3, 2, 1, 0]).all fun (c, k) =>
    match formDigit? c with
    | some d => (w.digit k).val == d
    | none => true

/-- A word has one of several forms. -/
def IsOneOf (w : Word) (forms : List String) : Prop := ∃ f ∈ forms, w.fits f = true

instance (w : Word) (forms : List String) : Decidable (w.IsOneOf forms) :=
  inferInstanceAs (Decidable (∃ f ∈ forms, w.fits f = true))

section Digits

variable {n : Int}

theorem val_digit (n : Int) (k : Nat) : ((digit n k).val : Int) = n / 16 ^ k % 16 := by
  have hpow : (2 : Int) ^ (4 * k) = 16 ^ k := by rw [pow_mul]; norm_num
  have hshift : n >>> (4 * k) = n / 16 ^ k := by
    rw [Int.shiftRight_eq_div_pow]
    push_cast
    rw [hpow]
  show ((n >>> (4 * k) % 16).toNat : Int) = _
  rw [hshift]
  omega

/-- A number of 16 bits is made of its four digits. -/
theorem eq_digits (hn : 0 ≤ n ∧ n ≤ 0xFFFF) :
    n = (digit n 3).val * 0x1000 + (digit n 2).val * 0x100 + (digit n 1).val * 0x10 +
      (digit n 0).val := by
  have h3 := val_digit n 3
  have h2 := val_digit n 2
  have h1 := val_digit n 1
  have h0 := val_digit n 0
  norm_num at h3 h2 h1 h0
  omega

theorem selector_eq_ite (n : Int) : selector n =
    if n / 0x1000 = 0 then (n % 0x1000).toNat
    else if n / 0x1000 = 5 ∨ n / 0x1000 = 8 ∨ n / 0x1000 = 9 then (n % 0x10).toNat
    else if n / 0x1000 = 0xE ∨ n / 0x1000 = 0xF then (n % 0x100).toNat
    else 0 := rfl

/-- The selector is made of the digits that are no operands. -/
theorem selector_eq (hn : 0 ≤ n ∧ n ≤ 0xFFFF) :
    selector n =
      if (digit n 3).val = 0 then
        (digit n 2).val * 0x100 + (digit n 1).val * 0x10 + (digit n 0).val
      else if (digit n 3).val = 5 ∨ (digit n 3).val = 8 ∨ (digit n 3).val = 9 then (digit n 0).val
      else if (digit n 3).val = 0xE ∨ (digit n 3).val = 0xF then
        (digit n 1).val * 0x10 + (digit n 0).val
      else 0 := by
  have hdigits := eq_digits hn
  have h2 := (digit n 2).isLt
  have h1 := (digit n 1).isLt
  have h0 := (digit n 0).isLt
  have hkind : n / 0x1000 = (digit n 3).val := by omega
  rw [selector_eq_ite, hkind]
  split_ifs <;> omega

end Digits

end Word

/-! ## The forms of the instructions -/

namespace Instruction

/-- The form of the words of an instruction. -/
def form? : Instruction → Option String
  | clear => some "00E0"
  | ret => some "00EE"
  | jump _ => some "1nnn"
  | call _ => some "2nnn"
  | skipIfByte _ _ => some "3xkk"
  | skipUnlessByte _ _ => some "4xkk"
  | skipIfEqual _ _ => some "5xy0"
  | loadByte _ _ => some "6xkk"
  | addByte _ _ => some "7xkk"
  | copy _ _ => some "8xy0"
  | or _ _ => some "8xy1"
  | and _ _ => some "8xy2"
  | xor _ _ => some "8xy3"
  | add _ _ => some "8xy4"
  | sub _ _ => some "8xy5"
  | shiftRight _ _ => some "8xy6"
  | subFrom _ _ => some "8xy7"
  | shiftLeft _ _ => some "8xyE"
  | skipUnlessEqual _ _ => some "9xy0"
  | loadIndex _ => some "Annn"
  | jumpOffset _ => some "Bnnn"
  | random _ _ => some "Cxkk"
  | draw _ _ _ => some "Dxyn"
  | skipIfKey _ => some "Ex9E"
  | skipUnlessKey _ => some "ExA1"
  | readDelay _ => some "Fx07"
  | awaitKey _ => some "Fx0A"
  | setDelay _ => some "Fx15"
  | setSound _ => some "Fx18"
  | addIndex _ => some "Fx1E"
  | loadGlyph _ => some "Fx29"
  | storeDecimal _ => some "Fx33"
  | store _ => some "Fx55"
  | load _ => some "Fx65"
  | unknown _ => none

/-- The forms of all instructions. -/
def forms : List String :=
  ["00E0", "00EE", "1nnn", "2nnn", "3xkk", "4xkk", "5xy0", "6xkk", "7xkk", "8xy0", "8xy1", "8xy2",
    "8xy3", "8xy4", "8xy5", "8xy6", "8xy7", "8xyE", "9xy0", "Annn", "Bnnn", "Cxkk", "Dxyn", "Ex9E",
    "ExA1", "Fx07", "Fx0A", "Fx15", "Fx18", "Fx1E", "Fx29", "Fx33", "Fx55", "Fx65"]

example : forms.length = 34 ∧ forms.Nodup := by decide

/-- The words of an instruction have one of several forms. -/
def IsOneOf (i : Instruction) (fs : List String) : Prop := ∃ f ∈ fs, i.form? = some f

theorem isOneOf_of_form? {i : Instruction} {f : String} {fs : List String} (h : i.form? = some f)
    (hf : f ∈ fs) : i.IsOneOf fs := ⟨f, hf, h⟩

theorem mem_forms_of_form? {i : Instruction} {f : String} (h : i.form? = some f) : f ∈ forms := by
  cases i <;> cases h <;> decide

/-- The first register operand of an instruction that has one. -/
def x? : Instruction → Option Reg
  | skipIfByte x _ => some x
  | skipUnlessByte x _ => some x
  | skipIfEqual x _ => some x
  | loadByte x _ => some x
  | addByte x _ => some x
  | copy x _ => some x
  | or x _ => some x
  | and x _ => some x
  | xor x _ => some x
  | add x _ => some x
  | sub x _ => some x
  | shiftRight x _ => some x
  | subFrom x _ => some x
  | shiftLeft x _ => some x
  | skipUnlessEqual x _ => some x
  | random x _ => some x
  | draw x _ _ => some x
  | skipIfKey x => some x
  | skipUnlessKey x => some x
  | readDelay x => some x
  | awaitKey x => some x
  | setDelay x => some x
  | setSound x => some x
  | addIndex x => some x
  | loadGlyph x => some x
  | storeDecimal x => some x
  | store x => some x
  | load x => some x
  | _ => none

theorem x?_decode {w : Word} {x : Reg} (h : (decode w).x? = some x) : x = w.x := by
  unfold decode at h
  split at h <;> cases h <;> rfl

/-! ## Decoding by forms -/

section Decode

variable {w : Int}

theorem fits_of_form? (hw : 0 ≤ w ∧ w ≤ 0xFFFF) {f : String} (h : (decode w).form? = some f) :
    Word.fits w f = true := by
  have hselector := Word.selector_eq hw
  have h2 := (Word.digit w 2).isLt
  have h1 := (Word.digit w 1).isLt
  have h0 := (Word.digit w 0).isLt
  -- each line of `decode` gives the highest digit, and the others as parts of the selector
  unfold decode at h
  split at h <;> simp only [form?, Option.some.injEq, reduceCtorEq] at h <;> subst h <;>
    simp [Word.fits, Word.formDigit?, List.idxOf?_cons] <;> grind

theorem form?_of_fits (hw : 0 ≤ w ∧ w ≤ 0xFFFF) {f : String} (hf : f ∈ forms)
    (h : Word.fits w f = true) : (decode w).form? = some f := by
  have hselector := Word.selector_eq hw
  -- each form gives the digits, and these the line of `decode`
  fin_cases hf <;> simp [Word.fits, Word.formDigit?, List.idxOf?_cons] at h <;>
    simp [h] at hselector <;> simp [decode, h, hselector, form?]

/-- A word of 16 bits decodes as an instruction of the form that it fits. -/
theorem fits_iff (hw : 0 ≤ w ∧ w ≤ 0xFFFF) {f : String} (hf : f ∈ forms) :
    Word.fits w f = true ↔ (decode w).form? = some f :=
  ⟨form?_of_fits hw hf, fits_of_form? hw⟩

theorem isOneOf_iff (hw : 0 ≤ w ∧ w ≤ 0xFFFF) {fs : List String} (hfs : ∀ f ∈ fs, f ∈ forms) :
    Word.IsOneOf w fs ↔ (decode w).IsOneOf fs := by
  constructor
  · rintro ⟨f, hf, hfits⟩
    exact ⟨f, hf, (fits_iff hw (hfs f hf)).1 hfits⟩
  · rintro ⟨f, hf, hform⟩
    exact ⟨f, hf, fits_of_form? hw hform⟩

/-- A word that fits no form is no instruction. -/
theorem decode_eq_unknown_iff (hw : 0 ≤ w ∧ w ≤ 0xFFFF) :
    decode w = .unknown w ↔ ¬ Word.IsOneOf w forms := by
  rw [isOneOf_iff hw fun f hf => hf]
  constructor
  · rintro h ⟨f, _, hform⟩
    rw [h] at hform
    cases hform
  · intro h
    have hnone : (decode w).form? = none := by
      cases hform : (decode w).form? with
      | none => rfl
      | some f => exact absurd ⟨f, mem_forms_of_form? hform, hform⟩ h
    unfold decode at hnone ⊢
    split at hnone <;> first | rfl | cases hnone

end Decode

end Instruction

end Chip8
