import Chip8.Proofs.Instruction.Digits
import Chip8.Proofs.Instruction.Repeat

set_option autoImplicit false

/-! # The arithmetic of the registers

The operations on two bytes keep eight bits of their result and put a ninth one into the flag
register. The two together are the exact number (`toNat_add_carry`, `toNat_sub_borrow`,
`toNat_shiftRight_lost`, `toNat_shiftLeft_lost`).

The operands may be one register, and either of them may be the flag register. Both are read before
anything is written, and the flag is written last. So the law of an operation speaks of the values
before it, and holds whichever registers are the same; only where the result goes to the flag
register, it gives way to the flag (`arithmetic_exact`).
-/

namespace Chip8

/-! ## Bytes as numbers -/

section Bytes

variable (a b : UInt8)

theorem toNat_add_carry :
    a.toNat + b.toNat = (a + b).toNat + 256 * if 255 < a.toNat + b.toNat then 1 else 0 := by
  have ha := a.toNat_lt
  have hb := b.toNat_lt
  rw [UInt8.toNat_add]
  split <;> omega

theorem toNat_sub_borrow :
    (a.toNat : Int) - b.toNat =
      (a - b).toNat - 256 * (1 - ((if b.toNat ≤ a.toNat then 1 else 0 : Nat) : Int)) := by
  have ha := a.toNat_lt
  have hb := b.toNat_lt
  rw [UInt8.toNat_sub]
  split <;> omega

theorem toNat_shiftRight_lost : b.toNat = 2 * (b >>> 1).toNat + b.toNat % 2 := by
  have hshift : (b >>> 1).toNat = b.toNat / 2 := by
    rw [UInt8.toNat_shiftRight]
    rfl
  rw [hshift]
  omega

theorem toNat_shiftLeft_lost : 2 * b.toNat = (b <<< 1).toNat + 256 * (b.toNat / 128) := by
  have hb := b.toNat_lt
  have hshift : (b <<< 1).toNat = b.toNat * 2 % 256 := by
    rw [UInt8.toNat_shiftLeft, Nat.shiftLeft_eq]
    rfl
  rw [hshift]
  omega

/-- A test counts as one if it holds, and as zero otherwise. -/
theorem toNat_decide (p : Prop) [Decidable p] : (decide p).toNat = if p then 1 else 0 := by
  by_cases h : p <;> simp [h]

variable {b} in
theorem toNat_beq_one (hb : b.toNat < 2) : (b == 1).toNat = b.toNat := by
  cases hc : b == 1 with
  | true =>
      rw [eq_of_beq hc]
      rfl
  | false =>
      have hne : b.toNat ≠ 1 := fun h => ne_of_beq_false hc (UInt8.toNat_inj.1 h)
      show 0 = b.toNat
      omega

theorem toNat_lowBit : (b % 2 == 1).toNat = b.toNat % 2 := by
  have hbit : (b % 2).toNat = b.toNat % 2 := UInt8.toNat_mod b 2
  rw [toNat_beq_one (by omega), hbit]

theorem toNat_highBit : (b / 128 == 1).toNat = b.toNat / 128 := by
  have hb := b.toNat_lt
  have hbit : (b / 128).toNat = b.toNat / 128 := UInt8.toNat_div b 128
  rw [toNat_beq_one (by omega), hbit]

end Bytes

/-! ## What an operation leaves -/

/-- The value of `Vx` as a number. -/
def State.value (s : State) (x : Reg) : Nat := (s.get x).toNat

/-- The state `t` has other values in the registers `V0` to `VF` than `s`, and is the same in all
else. -/
def State.SameBesidesValues (s t : State) : Prop :=
  t = { s with registers := { s.registers with v := t.registers.v } }

/-- What an operation without a flag leaves of the state `s`: a result in `Vx` that obeys `law`. -/
structure SetsResult (x : Reg) (law : Nat → Prop) (s t : State) : Prop where
  result : law (t.value x)
  others : ∀ z, z ≠ x → t.get z = s.get z
  rest : s.SameBesidesValues t

/-- What an operation with a flag leaves of the state `s`: the number `f` in the flag register, and,
unless `Vx` is that register, a result in `Vx` that obeys `law` together with the flag. -/
structure SetsFlag (x : Reg) (f : Nat) (law : Nat → Nat → Prop) (s t : State) : Prop where
  flag : t.value flag = f
  result : x ≠ Chip8.flag → t.value x ≤ 255 ∧ law (t.value x) (t.value Chip8.flag)
  others : ∀ z, z ≠ x → z ≠ Chip8.flag → t.get z = s.get z
  rest : s.SameBesidesValues t

section Sets

variable (s : State) (x : Reg) (b : UInt8)

theorem setsResult_set {law : Nat → Prop} (h : law b.toNat) :
    SetsResult x law s (s.mapRegisters (·.set x b)) := by
  refine ⟨?_, ?_, rfl⟩
  · show law ((s.registers.set x b).get x).toNat
    rw [Registers.get_set_self]
    exact h
  · intro z hz
    exact s.registers.get_set_ne b hz.symm

theorem setsFlag_setWithFlag (c : Bool) {f : Nat} {law : Nat → Nat → Prop} (hf : c.toNat = f)
    (h : law b.toNat f) :
    SetsFlag x f law s (s.mapRegisters (·.setWithFlag x b c)) := by
  have hget : ∀ z, (s.mapRegisters (·.setWithFlag x b c)).get z =
      if flag = z then if c then 1 else 0 else if x = z then b else s.get z :=
    Instruction.get_setWithFlag s.registers x b c
  have hflag : (s.mapRegisters (·.setWithFlag x b c)).value flag = f := by
    rw [State.value, hget, if_pos rfl, ← hf]
    cases c <;> rfl
  refine ⟨hflag, ?_, ?_, rfl⟩
  · -- the flag is written after the result, and so the result stays only if it went elsewhere
    intro hx
    have hresult : (s.mapRegisters (·.setWithFlag x b c)).value x = b.toNat := by
      rw [State.value, hget, if_neg hx.symm, if_pos rfl]
    rw [hflag, hresult]
    exact ⟨Nat.le_of_lt_succ b.toNat_lt, h⟩
  · intro z hx hz
    rw [hget, if_neg hz.symm, if_neg hx.symm]

end Sets

/-! ## The laws of the operations -/

open Instruction

/-- The word `w`, executed in the state `s`, does not fail, and leaves a state that is related to
`s` by `rel`. -/
def Word.Gives (w : Word) (s : State) (rel : State → State → Prop) : Prop :=
  ∃ t, (decode w).execute s = .ok t ∧ rel s t

/-- The laws of the operations on `Vx` and `Vy` in the state `s`, in terms of the values before
them. -/
structure ObeysArithmetic (s : State) (x y : Reg) : Prop where
  /-- `8xy4`: the flag is the carry. -/
  add : (Word.ofDigits 8 x y 4).Gives s <|
    SetsFlag x (if 255 < s.value x + s.value y then 1 else 0) fun r f =>
      s.value x + s.value y = r + 256 * f
  /-- `8xy5`: the flag is set unless something was borrowed. -/
  sub : (Word.ofDigits 8 x y 5).Gives s <|
    SetsFlag x (if s.value y ≤ s.value x then 1 else 0) fun r f =>
      (s.value x - s.value y : Int) = r - 256 * (1 - f)
  /-- `8xy7`: the subtraction the other way round. -/
  subFrom : (Word.ofDigits 8 x y 7).Gives s <|
    SetsFlag x (if s.value x ≤ s.value y then 1 else 0) fun r f =>
      (s.value y - s.value x : Int) = r - 256 * (1 - f)
  /-- `8xy6`: the flag is the bit that was shifted out. -/
  shiftRight : (Word.ofDigits 8 x y 6).Gives s <|
    SetsFlag x (s.value y % 2) fun r f => s.value y = 2 * r + f
  /-- `8xyE`: the flag is the bit that was shifted out. -/
  shiftLeft : (Word.ofDigits 8 x y 0xE).Gives s <|
    SetsFlag x (s.value y / 128) fun r f => 2 * s.value y = r + 256 * f
  /-- `7xkk`: the sum modulo 256, without a flag. -/
  addByte : ∀ c d : Fin 16, (Word.ofDigits 7 x c d).Gives s <|
    SetsResult x fun r => r = (s.value x + (c.val * 0x10 + d.val)) % 256
  /-- `8xy0`. -/
  copy : (Word.ofDigits 8 x y 0).Gives s <| SetsResult x fun r => r = s.value y
  /-- `8xy1`. -/
  or : (Word.ofDigits 8 x y 1).Gives s <|
    SetsResult x fun r => ∀ k, r.testBit k = ((s.value x).testBit k || (s.value y).testBit k)
  /-- `8xy2`. -/
  and : (Word.ofDigits 8 x y 2).Gives s <|
    SetsResult x fun r => ∀ k, r.testBit k = ((s.value x).testBit k && (s.value y).testBit k)
  /-- `8xy3`. -/
  xor : (Word.ofDigits 8 x y 3).Gives s <|
    SetsResult x fun r => ∀ k, r.testBit k = ((s.value x).testBit k ^^ (s.value y).testBit k)

/-- The word of an operation gives what its instruction does. -/
theorem gives_of_operation? {s t : State} {x y d : Fin 16} {i : Instruction}
    {rel : State → State → Prop} (hi : operation? x y d.val = some i) (he : i.execute s = .ok t)
    (hrel : rel s t) : (Word.ofDigits 8 x y d).Gives s rel :=
  ⟨t, by rw [decode_of_operation? hi]; exact he, hrel⟩

/-- **Exact arithmetic.** The operations obey their laws in every state and on all registers, be
they different, the same one, or the flag register. -/
theorem arithmetic_exact (s : State) (x y : Reg) : ObeysArithmetic s x y where
  add := gives_of_operation? rfl rfl
    (setsFlag_setWithFlag s x _ _ (toNat_decide _) (toNat_add_carry _ _))
  sub := gives_of_operation? rfl rfl
    (setsFlag_setWithFlag s x _ _ (toNat_decide _) (toNat_sub_borrow _ _))
  subFrom := gives_of_operation? rfl rfl
    (setsFlag_setWithFlag s x _ _ (toNat_decide _) (toNat_sub_borrow _ _))
  shiftRight := gives_of_operation? rfl rfl
    (setsFlag_setWithFlag s x _ _ (toNat_lowBit _) (toNat_shiftRight_lost _))
  shiftLeft := gives_of_operation? rfl rfl
    (setsFlag_setWithFlag s x _ _ (toNat_highBit _) (toNat_shiftLeft_lost _))
  addByte := by
    intro c d
    refine ⟨_, by rw [decode_addByte]; rfl, setsResult_set s x _ ?_⟩
    rw [UInt8.toNat_add, Word.toNat_kk_ofDigits]
    rfl
  copy := gives_of_operation? rfl rfl (setsResult_set s x _ rfl)
  or := by
    refine gives_of_operation? rfl rfl (setsResult_set s x _ fun k => ?_)
    rw [UInt8.toNat_or, Nat.testBit_or]
    rfl
  and := by
    refine gives_of_operation? rfl rfl (setsResult_set s x _ fun k => ?_)
    rw [UInt8.toNat_and, Nat.testBit_and]
    rfl
  xor := by
    refine gives_of_operation? rfl rfl (setsResult_set s x _ fun k => ?_)
    rw [UInt8.toNat_xor, Nat.testBit_xor]
    rfl

end Chip8
