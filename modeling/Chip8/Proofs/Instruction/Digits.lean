import Chip8.Proofs.Instruction.Form

set_option autoImplicit false

/-! # Words by their digits

A word of 16 bits is given by its four digits in base sixteen (`Word.ofDigits`), and has no others
(`Word.digits_ofDigits`). So the words of one form are those with some digits fixed, and what they
decode as is an equation for all values of the others.
-/

namespace Chip8

namespace Word

/-- The word with the given digits, the highest one first. -/
def ofDigits (a b c d : Fin 16) : Word := a.val * 0x1000 + b.val * 0x100 + c.val * 0x10 + d.val

section OfDigits

variable (a b c d : Fin 16)

theorem ofDigits_bounds : 0 ≤ ofDigits a b c d ∧ ofDigits a b c d ≤ 0xFFFF := by
  show (0 : Int) ≤ a.val * 0x1000 + b.val * 0x100 + c.val * 0x10 + d.val ∧
    (a.val * 0x1000 + b.val * 0x100 + c.val * 0x10 + d.val : Int) ≤ 0xFFFF
  omega

/-- The digits of a number of 16 bits are unique. -/
theorem digits_ofDigits :
    (ofDigits a b c d).digit 3 = a ∧ (ofDigits a b c d).digit 2 = b ∧
      (ofDigits a b c d).digit 1 = c ∧ (ofDigits a b c d).digit 0 = d := by
  obtain ⟨w, hw⟩ : ∃ w : Int, w = a.val * 0x1000 + b.val * 0x100 + c.val * 0x10 + d.val := ⟨_, rfl⟩
  have hdigits := eq_digits (n := w) (by omega)
  have hword : ofDigits a b c d = w := hw.symm
  rw [hword]
  omega

@[simp] theorem digit_three_ofDigits : (ofDigits a b c d).digit 3 = a := (digits_ofDigits a b c d).1
@[simp] theorem digit_two_ofDigits : (ofDigits a b c d).digit 2 = b := (digits_ofDigits a b c d).2.1
@[simp] theorem digit_one_ofDigits : (ofDigits a b c d).digit 1 = c :=
  (digits_ofDigits a b c d).2.2.1
@[simp] theorem digit_zero_ofDigits : (ofDigits a b c d).digit 0 = d :=
  (digits_ofDigits a b c d).2.2.2

@[simp] theorem x_ofDigits : (ofDigits a b c d).x = b := digit_two_ofDigits a b c d
@[simp] theorem y_ofDigits : (ofDigits a b c d).y = c := digit_one_ofDigits a b c d

/-- The byte operand has the two lower digits. -/
theorem toNat_kk_ofDigits : (ofDigits a b c d).kk.toNat = c.val * 0x10 + d.val := by
  have hlow : (ofDigits a b c d % 256).toNat = c.val * 0x10 + d.val := by
    unfold ofDigits
    omega
  rw [kk, hlow, UInt8.toNat_ofNat']
  omega

end OfDigits

end Word

namespace Instruction

open Word

/-! ## Decoding by digits -/

/-- The operation on two registers that the last digit of a word `8xyd` selects. -/
def operation? (x y : Reg) : Nat → Option Instruction
  | 0x0 => some (copy x y)
  | 0x1 => some (or x y)
  | 0x2 => some (and x y)
  | 0x3 => some (xor x y)
  | 0x4 => some (add x y)
  | 0x5 => some (sub x y)
  | 0x6 => some (shiftRight x y)
  | 0x7 => some (subFrom x y)
  | 0xE => some (shiftLeft x y)
  | _ => none

section Decode

variable (x y c d : Fin 16)

theorem selector_eight : (ofDigits 8 x y d).selector = d.val := by
  rw [selector_eq (ofDigits_bounds 8 x y d), digit_three_ofDigits, digit_zero_ofDigits]
  rfl

theorem selector_fifteen : (ofDigits 0xF x c d).selector = c.val * 0x10 + d.val := by
  rw [selector_eq (ofDigits_bounds 0xF x c d), digit_three_ofDigits, digit_one_ofDigits,
    digit_zero_ofDigits]
  rfl

theorem decode_of_operation? {x y d : Fin 16} {i : Instruction}
    (h : operation? x y d.val = some i) : decode (ofDigits 8 x y d) = i := by
  rw [decode, digit_three_ofDigits, selector_eight, x_ofDigits, y_ofDigits]
  unfold operation? at h
  split at h <;> rename_i hd <;> cases h <;> rw [hd] <;> rfl

theorem decode_addByte : decode (ofDigits 7 x c d) = .addByte x (ofDigits 7 x c d).kk := by
  rw [decode, digit_three_ofDigits, x_ofDigits]
  rfl

theorem decode_store : decode (ofDigits 0xF x 5 5) = .store x := by
  rw [decode, digit_three_ofDigits, selector_fifteen, x_ofDigits]
  rfl

theorem decode_load : decode (ofDigits 0xF x 6 5) = .load x := by
  rw [decode, digit_three_ofDigits, selector_fifteen, x_ofDigits]
  rfl

end Decode

end Instruction

end Chip8
