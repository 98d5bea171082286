import Chip8.Proofs.Instruction.Failure

set_option autoImplicit false

/-! # Instructions that may be executed twice

An instruction whose operands it does not change itself makes no difference the second time
(`isRepeatable`). If the program counter is put back after it and it is executed once more, then all
but the timers is as the first time (`agrees_of_repeated`).
-/

namespace Chip8

/-- Two states that agree in all but the timers. -/
structure State.Agrees (s t : State) : Prop where
  registers : t.registers = s.registers
  memory : t.memory = s.memory
  stack : t.stack = s.stack
  screen : t.screen = s.screen
  keypad : t.keypad = s.keypad
  random : t.random = s.random

/-- A state that agrees with one whose program counter was put back has its other registers. -/
theorem State.Agrees.of_setPc {t u : State} {a : Int} (h : (t.setPc a).Agrees u) :
    (∀ z, u.get z = t.get z) ∧ u.registers.i = t.registers.i ∧
      u.registers.sp = t.registers.sp := by
  have hregisters : u.registers = { t.registers with pc := a } := h.registers
  refine ⟨?_, ?_, ?_⟩
  · intro z
    show u.registers.get z = _
    rw [hregisters]
    rfl
  · rw [hregisters]
  · rw [hregisters]

theorem Memory.overwrite_overwrite (bytes : Vector UInt8 4096) (a : Nat) (data : List UInt8) :
    overwrite (overwrite bytes a data) a data = overwrite bytes a data := by
  apply Vector.ext
  intro k hk
  rw [getElem_overwrite _ _ _ _ hk, getElem_overwrite _ _ _ _ hk]
  split
  · rfl
  · rfl

/-- A block that was written can be written again, which changes nothing. -/
theorem Memory.load_load {m m₁ m₂ : Memory} {offset : Int} {data : List Int}
    (h₁ : m.load offset data = .ok m₁) (h₂ : m₁.load offset data = .ok m₂) : m₂ = m₁ := by
  obtain ⟨_, rfl⟩ := load_eq_ok_iff.1 h₁
  obtain ⟨_, rfl⟩ := load_eq_ok_iff.1 h₂
  rw [overwrite_overwrite]

namespace Instruction

/-- Whether an instruction makes no difference when it is executed a second time. -/
def isRepeatable : Instruction → Bool
  | clear => true
  | skipIfByte _ _ => true
  | skipUnlessByte _ _ => true
  | skipIfEqual _ _ => true
  | skipUnlessEqual _ _ => true
  | skipIfKey _ => true
  | skipUnlessKey _ => true
  | loadByte _ _ => true
  | copy _ _ => true
  | or _ _ => true
  | and _ _ => true
  | shiftRight x y => y != x && y != flag
  | shiftLeft x y => y != x && y != flag
  | loadIndex _ => true
  | readDelay _ => true
  | setDelay _ => true
  | setSound _ => true
  | loadGlyph _ => true
  | storeDecimal _ => true
  | unknown _ => true
  | _ => false

/-- The value of `Vz` that a repeatable instruction leaves. -/
def nextGet (i : Instruction) (s : State) (z : Reg) : UInt8 :=
  match i with
  | loadByte x kk => if x = z then kk else s.get z
  | copy x y => if x = z then s.get y else s.get z
  | or x y => if x = z then s.get x ||| s.get y else s.get z
  | and x y => if x = z then s.get x &&& s.get y else s.get z
  | shiftRight x y =>
    if flag = z then if s.get y % 2 == 1 then 1 else 0 else if x = z then s.get y >>> 1 else s.get z
  | shiftLeft x y =>
    if flag = z then if s.get y / 128 == 1 then 1 else 0
    else if x = z then s.get y <<< 1 else s.get z
  | readDelay x => if x = z then s.delay.value else s.get z
  | _ => s.get z

theorem get_skipIf (r : Registers) (c : Bool) (z : Reg) : (r.skipIf c).get z = r.get z := by
  unfold Registers.skipIf
  split <;> rfl

theorem get_setWithFlag (r : Registers) (x : Reg) (b : UInt8) (c : Bool) (z : Reg) :
    (r.setWithFlag x b c).get z =
      if flag = z then if c then 1 else 0 else if x = z then b else r.get z := by
  unfold Registers.setWithFlag
  rw [Registers.get_set, Registers.get_set]

theorem get_of_isRepeatable {i : Instruction} {s t : State} (hi : i.isRepeatable = true)
    (h : i.execute s.advance = .ok t) (z : Reg) : t.get z = i.nextGet s z := by
  cases i with
  | storeDecimal x =>
      obtain ⟨memory, _, rfl⟩ := execute_storeDecimal_eq_ok_iff.1 h
      rfl
  | loadByte x kk => cases h; exact Registers.get_set _ _ _ _
  | copy x y => cases h; exact Registers.get_set _ _ _ _
  | or x y => cases h; exact Registers.get_set _ _ _ _
  | and x y => cases h; exact Registers.get_set _ _ _ _
  | readDelay x => cases h; exact Registers.get_set _ _ _ _
  | shiftRight x y => cases h; exact get_setWithFlag _ _ _ _ _
  | shiftLeft x y => cases h; exact get_setWithFlag _ _ _ _ _
  | skipIfByte x kk => cases h; exact get_skipIf _ _ _
  | skipUnlessByte x kk => cases h; exact get_skipIf _ _ _
  | skipIfEqual x y => cases h; exact get_skipIf _ _ _
  | skipUnlessEqual x y => cases h; exact get_skipIf _ _ _
  | skipIfKey x => cases h; exact get_skipIf _ _ _
  | skipUnlessKey x => cases h; exact get_skipIf _ _ _
  | clear => cases h; rfl
  | loadIndex nnn => cases h; rfl
  | loadGlyph x => cases h; rfl
  | setDelay x => cases h; rfl
  | setSound x => cases h; rfl
  | unknown w => cases h; rfl
  | _ => cases hi

/-- The second time a repeatable instruction leaves the same values. -/
theorem nextGet_of_nextGet {i : Instruction} {s u : State} (hi : i.isRepeatable = true)
    (hv : ∀ z, u.get z = i.nextGet s z) (hd : (∃ x, i = .readDelay x) → u.delay = s.delay)
    (z : Reg) :
    i.nextGet u z = i.nextGet s z := by
  cases i with
  | loadByte x kk =>
      simp only [nextGet] at hv ⊢
      by_cases hz : x = z <;> simp [hv, hz]
  | copy x y =>
      simp only [nextGet] at hv ⊢
      by_cases hz : x = z <;> simp [hv, hz]
  | or x y =>
      simp only [nextGet] at hv ⊢
      by_cases hz : x = z
      · rw [if_pos hz, if_pos hz, hv x, if_pos rfl, hv y]
        split
        · exact UInt8.or_self
        · rw [UInt8.or_assoc, UInt8.or_self]
      · rw [if_neg hz, if_neg hz, hv z, if_neg hz]
  | and x y =>
      simp only [nextGet] at hv ⊢
      by_cases hz : x = z
      · rw [if_pos hz, if_pos hz, hv x, if_pos rfl, hv y]
        split
        · exact UInt8.and_self
        · rw [UInt8.and_assoc, UInt8.and_self]
      · rw [if_neg hz, if_neg hz, hv z, if_neg hz]
  | readDelay x =>
      simp only [nextGet] at hv ⊢
      by_cases hz : x = z <;> simp [hv, hz, hd ⟨x, rfl⟩]
  | shiftRight x y =>
      -- the source is neither the target nor the flag, and so still has its value
      simp only [isRepeatable, Bool.and_eq_true, bne_iff_ne] at hi
      have hy : u.get y = s.get y := by
        rw [hv, nextGet, if_neg (Ne.symm hi.2), if_neg (Ne.symm hi.1)]
      simp only [nextGet] at hv ⊢
      rw [hy, hv]
      split
      · rfl
      · split <;> rfl
  | shiftLeft x y =>
      simp only [isRepeatable, Bool.and_eq_true, bne_iff_ne] at hi
      have hy : u.get y = s.get y := by
        rw [hv, nextGet, if_neg (Ne.symm hi.2), if_neg (Ne.symm hi.1)]
      simp only [nextGet] at hv ⊢
      rw [hy, hv]
      split
      · rfl
      · split <;> rfl
  | _ => exact hv z

/-- A repeatable instruction leaves the stack, the keypad and the source of random bytes alone. -/
theorem keeps_of_isRepeatable {i : Instruction} (hi : i.isRepeatable = true) (s : State) :
    i.nextStack s = s.stack ∧ i.nextSp s = s.registers.sp ∧ i.nextKeypad s = s.keypad ∧
      i.nextRandom s = s.random := by
  cases i <;> first | exact ⟨rfl, rfl, rfl, rfl⟩ | cases hi

theorem nextIndex_of_nextIndex {i : Instruction} {s u : State} (hi : i.isRepeatable = true)
    (hindex : u.registers.i = i.nextIndex s) (hv : ∀ z, u.get z = i.nextGet s z) :
    i.nextIndex u = i.nextIndex s := by
  cases i with
  | loadIndex nnn => rfl
  | loadGlyph x =>
      have hx : u.get x = s.get x := hv x
      show ((u.get x).toNat : Int) * 5 = (s.get x).toNat * 5
      rw [hx]
  | _ => first | exact hindex | cases hi

section Repeated

variable {i : Instruction} {s t u t' : State}

/-- The second time a decimal is stored, the same digits are stored at the same place. -/
theorem memory_of_repeated (hi : i.isRepeatable = true) (h : i.execute s.advance = .ok t)
    (hu : (t.setPc s.pc).Agrees u) (h' : i.execute u.advance = .ok t') : t'.memory = t.memory := by
  cases hw : i.writesMemory with
  | false => rw [(effect_of_execute h').memory hw, hu.memory]; rfl
  | true =>
      cases i with
      | storeDecimal x =>
          obtain ⟨memory, hload, rfl⟩ := execute_storeDecimal_eq_ok_iff.1 h
          obtain ⟨memory', hload', rfl⟩ := execute_storeDecimal_eq_ok_iff.1 h'
          have hindex : u.advance.registers.i = s.registers.i := hu.of_setPc.2.1
          have hget : u.advance.get x = s.get x := hu.of_setPc.1 x
          have hmemory : u.advance.memory = memory := hu.memory
          rw [hindex, hget, hmemory] at hload'
          exact Memory.load_load hload hload'
      | store x => cases hi
      | _ => cases hw

theorem screen_of_repeated (hi : i.isRepeatable = true) (h : i.execute s.advance = .ok t)
    (hu : (t.setPc s.pc).Agrees u) (h' : i.execute u.advance = .ok t') : t'.screen = t.screen := by
  cases hw : i.writesScreen with
  | false => rw [(effect_of_execute h').screen hw, hu.screen]; rfl
  | true =>
      cases i with
      | clear =>
          cases h
          cases h'
          show u.screen.clear = s.screen.clear
          rw [hu.screen]
          rfl
      | draw x y n => cases hi
      | _ => cases hw

/-- **Repetition.** A repeatable instruction was executed, the program counter was put back, and the
timers may have counted down, but for an instruction that reads one. Then to execute it once more
changes nothing but the timers. -/
theorem agrees_of_repeated (hi : i.isRepeatable = true) (h : i.execute s.advance = .ok t)
    (hu : (t.setPc s.pc).Agrees u) (hd : (∃ x, i = .readDelay x) → u.delay = s.delay)
    (h' : i.execute u.advance = .ok t') : (t.setPc s.pc).Agrees (t'.setPc s.pc) := by
  have heffect := effect_of_execute h
  have heffect' := effect_of_execute h'
  obtain ⟨hstack, hsp, hkeypad, hrandom⟩ := keeps_of_isRepeatable hi u
  obtain ⟨hget, hi', hsp'⟩ := hu.of_setPc
  have hv : ∀ z, u.get z = i.nextGet s z := by
    intro z
    rw [hget z, get_of_isRepeatable hi h z]
  have hindex : u.registers.i = i.nextIndex s := by rw [hi', heffect.index]
  refine ⟨?_, ?_, ?_, ?_, ?_, ?_⟩
  · refine Registers.ext_get ?_ ?_ rfl ?_
    · intro z
      calc t'.get z
          = i.nextGet u z := get_of_isRepeatable hi h' z
        _ = i.nextGet s z := nextGet_of_nextGet hi hv hd z
        _ = t.get z := (get_of_isRepeatable hi h z).symm
    · calc t'.registers.i
          = i.nextIndex u := heffect'.index
        _ = i.nextIndex s := nextIndex_of_nextIndex hi hindex hv
        _ = t.registers.i := heffect.index.symm
    · show t'.registers.sp = t.registers.sp
      rw [heffect'.sp, hsp, hsp']
  · show t'.memory = t.memory
    exact memory_of_repeated hi h hu h'
  · show t'.stack = t.stack
    rw [heffect'.stack, hstack, hu.stack]
    rfl
  · show t'.screen = t.screen
    exact screen_of_repeated hi h hu h'
  · show t'.keypad = t.keypad
    rw [heffect'.keypad, hkeypad, hu.keypad]
    rfl
  · show t'.random = t.random
    rw [heffect'.random, hrandom, hu.random]
    rfl

end Repeated

end Instruction

end Chip8
