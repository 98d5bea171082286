import Chip8.Proofs.Instruction.Form
import Chip8.Proofs.Instruction.Repeat

set_option autoImplicit false

/-! # The footprint of an instruction

Each part of the state is changed by a few kinds of instruction only. `Word.Footprint` names them by
the forms of their words, part by part; for the memory and the registers `V0` to `VF` it also bounds
which bytes and which registers can change. Every instruction that is carried out keeps to its
footprint (`footprint_of_execute`), and a word that is no instruction has none
(`execute_of_isOneOf_none`).
-/

namespace Chip8

/-! ## The bytes that a block write changes -/

/-- A block write changes no byte outside the block. -/
theorem Memory.mem_block_of_load {m m' : Memory} {offset : Int} {data : List Int}
    (h : m.load offset data = .ok m') {k : Fin 4096} (hk : m'.bytes.get k ≠ m.bytes.get k) :
    offset ≤ k.val ∧ k.val < offset + data.length := by
  obtain ⟨hrange, rfl⟩ := load_eq_ok_iff.1 h
  by_cases hin : offset.toNat ≤ k.val ∧ k.val < offset.toNat + (data.map clampByte).length
  · rw [List.length_map] at hin
    omega
  · refine absurd ?_ hk
    show (overwrite m.bytes offset.toNat (data.map clampByte))[k.val] = m.bytes[k.val]
    rw [getElem_overwrite _ _ _ _ k.isLt, dif_neg hin]

/-! ## The registers that an instruction writes -/

/-- Setting a row of registers changes no register behind it. -/
theorem Registers.get_setFrom_of_le (r : Registers) (k : Nat) (bytes : List UInt8) {z : Reg}
    (hz : z.val < k ∨ k + bytes.length ≤ z.val) : (r.setFrom k bytes).get z = r.get z := by
  induction bytes generalizing r k with
  | nil => rfl
  | cons b rest ih =>
      rw [List.length_cons] at hz
      have hrest := ih { r with v := r.v.setIfInBounds k b } (k + 1) (by omega)
      have hne : ¬ k = z.val := by omega
      calc (r.setFrom k (b :: rest)).get z
          = ({ r with v := r.v.setIfInBounds k b } : Registers).get z := hrest
        _ = (r.v.setIfInBounds k b)[z.val] := rfl
        _ = r.v[z.val] := by rw [Vector.getElem_setIfInBounds z.isLt, if_neg hne]

namespace Instruction

/-- Whether an instruction may change `Vz`. -/
def writes (z : Reg) : Instruction → Bool
  | loadByte x _ => x == z
  | addByte x _ => x == z
  | copy x _ => x == z
  | or x _ => x == z
  | and x _ => x == z
  | xor x _ => x == z
  | add x _ => x == z || flag == z
  | sub x _ => x == z || flag == z
  | shiftRight x _ => x == z || flag == z
  | subFrom x _ => x == z || flag == z
  | shiftLeft x _ => x == z || flag == z
  | random x _ => x == z
  | draw _ _ _ => flag == z
  | readDelay x => x == z
  | load x => z ≤ x
  | _ => false

theorem get_set_of_beq {x z : Reg} (h : (x == z) = false) (r : Registers) (b : UInt8) :
    (r.set x b).get z = r.get z := r.get_set_ne b (by simpa using h)

theorem get_setWithFlag_of_beq {x z : Reg} (h : (x == z || flag == z) = false) (r : Registers)
    (b : UInt8) (c : Bool) : (r.setWithFlag x b c).get z = r.get z := by
  obtain ⟨hx, hflag⟩ := Bool.or_eq_false_iff.1 h
  unfold Registers.setWithFlag
  rw [get_set_of_beq hflag, get_set_of_beq hx]

/-- The registers that an instruction does not write keep their values. -/
theorem get_of_not_writes {i : Instruction} {s t : State} {z : Reg} (hi : i.writes z = false)
    (h : i.execute s.advance = .ok t) : t.get z = s.get z := by
  cases i with
  | loadByte x kk => cases h; exact get_set_of_beq hi _ _
  | addByte x kk => cases h; exact get_set_of_beq hi _ _
  | copy x y => cases h; exact get_set_of_beq hi _ _
  | or x y => cases h; exact get_set_of_beq hi _ _
  | and x y => cases h; exact get_set_of_beq hi _ _
  | xor x y => cases h; exact get_set_of_beq hi _ _
  | random x kk => cases h; exact get_set_of_beq hi _ _
  | readDelay x => cases h; exact get_set_of_beq hi _ _
  | add x y => cases h; exact get_setWithFlag_of_beq hi _ _ _
  | sub x y => cases h; exact get_setWithFlag_of_beq hi _ _ _
  | shiftRight x y => cases h; exact get_setWithFlag_of_beq hi _ _ _
  | subFrom x y => cases h; exact get_setWithFlag_of_beq hi _ _ _
  | shiftLeft x y => cases h; exact get_setWithFlag_of_beq hi _ _ _
  | skipIfByte x kk => cases h; exact get_skipIf _ _ _
  | skipUnlessByte x kk => cases h; exact get_skipIf _ _ _
  | skipIfEqual x y => cases h; exact get_skipIf _ _ _
  | skipUnlessEqual x y => cases h; exact get_skipIf _ _ _
  | skipIfKey x => cases h; exact get_skipIf _ _ _
  | skipUnlessKey x => cases h; exact get_skipIf _ _ _
  | call nnn =>
      obtain ⟨stack, _, rfl⟩ := execute_call_eq_ok_iff.1 h
      rfl
  | draw x y n =>
      obtain ⟨rows, d, _, _, rfl⟩ := execute_draw_eq_ok_iff.1 h
      exact get_set_of_beq hi _ _
  | storeDecimal x =>
      obtain ⟨memory, _, rfl⟩ := execute_storeDecimal_eq_ok_iff.1 h
      rfl
  | store x =>
      obtain ⟨memory, _, rfl⟩ := execute_store_eq_ok_iff.1 h
      rfl
  | load x =>
      obtain ⟨bytes, hbytes, rfl⟩ := execute_load_eq_ok_iff.1 h
      have hlength : bytes.length = x.val + 1 := Memory.length_of_block hbytes
      have hz : x.val < z.val := Fin.lt_def.1 (Fin.not_le.1 (of_decide_eq_false hi))
      exact Registers.get_setFrom_of_le _ 0 bytes (by omega)
  | _ => cases h; rfl

/-! ## The kinds of instruction that change a part of the state -/

section Kinds

variable {i : Instruction} (s : State)

theorem nextStack_of_not_isOneOf (hi : ¬ i.IsOneOf ["2nnn", "00EE"]) :
    i.nextStack s = s.stack ∧ i.nextSp s = s.registers.sp := by
  cases i with
  | call nnn => exact absurd (isOneOf_of_form? rfl (by decide)) hi
  | ret => exact absurd (isOneOf_of_form? rfl (by decide)) hi
  | _ => exact ⟨rfl, rfl⟩

theorem nextIndex_of_not_isOneOf (hi : ¬ i.IsOneOf ["Annn", "Fx1E", "Fx29", "Fx55", "Fx65"]) :
    i.nextIndex s = s.registers.i := by
  cases i with
  | loadIndex nnn => exact absurd (isOneOf_of_form? rfl (by decide)) hi
  | addIndex x => exact absurd (isOneOf_of_form? rfl (by decide)) hi
  | loadGlyph x => exact absurd (isOneOf_of_form? rfl (by decide)) hi
  | store x => exact absurd (isOneOf_of_form? rfl (by decide)) hi
  | load x => exact absurd (isOneOf_of_form? rfl (by decide)) hi
  | _ => rfl

theorem nextKeypad_of_not_isOneOf (hi : ¬ i.IsOneOf ["Fx0A"]) : i.nextKeypad s = s.keypad := by
  cases i with
  | awaitKey x => exact absurd (isOneOf_of_form? rfl (by decide)) hi
  | _ => rfl

theorem nextDelay_of_not_isOneOf (hi : ¬ i.IsOneOf ["Fx15"]) : i.nextDelay s = s.delay := by
  cases i with
  | setDelay x => exact absurd (isOneOf_of_form? rfl (by decide)) hi
  | _ => rfl

theorem nextSound_of_not_isOneOf (hi : ¬ i.IsOneOf ["Fx18"]) : i.nextSound s = s.sound := by
  cases i with
  | setSound x => exact absurd (isOneOf_of_form? rfl (by decide)) hi
  | _ => rfl

theorem nextRandom_of_not_isOneOf (hi : ¬ i.IsOneOf ["Cxkk"]) : i.nextRandom s = s.random := by
  cases i with
  | random x kk => exact absurd (isOneOf_of_form? rfl (by decide)) hi
  | _ => rfl

theorem writesScreen_of_not_isOneOf (hi : ¬ i.IsOneOf ["00E0", "Dxyn"]) :
    i.writesScreen = false := by
  cases i with
  | clear => exact absurd (isOneOf_of_form? rfl (by decide)) hi
  | draw x y n => exact absurd (isOneOf_of_form? rfl (by decide)) hi
  | _ => rfl

/-- No instruction presses or releases a key. -/
theorem isDown_nextKeypad (key : Key) : (i.nextKeypad s).isDown key = s.keypad.isDown key := by
  cases i with
  | awaitKey x => exact Keypad.isDown_await _ _
  | _ => rfl

end Kinds

end Instruction

/-! ## The footprint of a word -/

namespace Word

/-- The registers that a word may change. -/
def MayWrite (w : Word) (z : Reg) : Prop :=
  (w.IsOneOf ["6xkk", "7xkk", "8xy0", "8xy1", "8xy2", "8xy3", "Cxkk", "Fx07"] ∧ z = w.x) ∨
    (w.IsOneOf ["8xy4", "8xy5", "8xy6", "8xy7", "8xyE"] ∧ (z = w.x ∨ z = flag)) ∨
    (w.IsOneOf ["Dxyn"] ∧ z = flag) ∨ (w.IsOneOf ["Fx65"] ∧ z ≤ w.x)

/-- The addresses that a word may change, when `I` has the value `first`. -/
def MayStore (w : Word) (first address : Int) : Prop :=
  (w.IsOneOf ["Fx33"] ∧ first ≤ address ∧ address ≤ first + 2) ∨
    (w.IsOneOf ["Fx55"] ∧ first ≤ address ∧ address ≤ first + w.x.val)

/-- All that the word `w` may change of a state. -/
structure Footprint (w : Word) (s t : State) : Prop where
  memory : ∀ k : Fin 4096, t.memory.bytes.get k ≠ s.memory.bytes.get k →
    w.MayStore s.registers.i k.val
  screen : t.screen ≠ s.screen → w.IsOneOf ["00E0", "Dxyn"]
  stack : t.stack ≠ s.stack → w.IsOneOf ["2nnn", "00EE"]
  sp : t.registers.sp ≠ s.registers.sp → w.IsOneOf ["2nnn", "00EE"]
  index : t.registers.i ≠ s.registers.i → w.IsOneOf ["Annn", "Fx1E", "Fx29", "Fx55", "Fx65"]
  registers : ∀ z, t.get z ≠ s.get z → w.MayWrite z
  keys : ∀ key, t.keypad.isDown key = s.keypad.isDown key
  latch : t.keypad.latch ≠ s.keypad.latch → w.IsOneOf ["Fx0A"]
  delay : t.delay ≠ s.delay → w.IsOneOf ["Fx15"]
  sound : t.sound ≠ s.sound → w.IsOneOf ["Fx18"]
  random : t.random ≠ s.random → w.IsOneOf ["Cxkk"]

section Decode

open Instruction

variable {w : Int}

/-- A decoded word has one of several forms if its instruction has one of them. -/
theorem isOneOf_of_decode (hw : 0 ≤ w ∧ w ≤ 0xFFFF) {i : Instruction} {f : String}
    {fs : List String} (hi : decode w = i) (hform : i.form? = some f) (hf : f ∈ fs) :
    IsOneOf w fs := by
  subst hi
  exact ⟨f, hf, fits_of_form? hw hform⟩

theorem mayWrite_of_writes (hw : 0 ≤ w ∧ w ≤ 0xFFFF) {z : Reg}
    (h : (decode w).writes z = true) : MayWrite w z := by
  have hx {i : Instruction} {x : Reg} (hi : decode w = i) (hx : i.x? = some x) :
      x = Word.x w := by
    subst hi
    exact x?_decode hx
  -- the four kinds of instruction that write registers
  have one {i : Instruction} {f : String} {x : Reg} (hi : decode w = i) (hxi : i.x? = some x)
      (hform : i.form? = some f)
      (hf : f ∈ ["6xkk", "7xkk", "8xy0", "8xy1", "8xy2", "8xy3", "Cxkk", "Fx07"])
      (hz : (x == z) = true) : MayWrite w z := by
    refine .inl ⟨isOneOf_of_decode hw hi hform hf, ?_⟩
    rw [← hx hi hxi, eq_of_beq hz]
  have two {i : Instruction} {f : String} {x : Reg} (hi : decode w = i) (hxi : i.x? = some x)
      (hform : i.form? = some f) (hf : f ∈ ["8xy4", "8xy5", "8xy6", "8xy7", "8xyE"])
      (hz : (x == z || flag == z) = true) : MayWrite w z := by
    refine .inr (.inl ⟨isOneOf_of_decode hw hi hform hf, ?_⟩)
    rcases Bool.or_eq_true_iff.1 hz with hz | hz
    · exact .inl (by rw [← hx hi hxi, eq_of_beq hz])
    · exact .inr (eq_of_beq hz).symm
  cases hi : decode w with
  | loadByte x kk => rw [hi] at h; exact one hi rfl rfl (by decide) h
  | addByte x kk => rw [hi] at h; exact one hi rfl rfl (by decide) h
  | copy x y => rw [hi] at h; exact one hi rfl rfl (by decide) h
  | or x y => rw [hi] at h; exact one hi rfl rfl (by decide) h
  | and x y => rw [hi] at h; exact one hi rfl rfl (by decide) h
  | xor x y => rw [hi] at h; exact one hi rfl rfl (by decide) h
  | random x kk => rw [hi] at h; exact one hi rfl rfl (by decide) h
  | readDelay x => rw [hi] at h; exact one hi rfl rfl (by decide) h
  | add x y => rw [hi] at h; exact two hi rfl rfl (by decide) h
  | sub x y => rw [hi] at h; exact two hi rfl rfl (by decide) h
  | shiftRight x y => rw [hi] at h; exact two hi rfl rfl (by decide) h
  | subFrom x y => rw [hi] at h; exact two hi rfl rfl (by decide) h
  | shiftLeft x y => rw [hi] at h; exact two hi rfl rfl (by decide) h
  | draw x y n =>
      rw [hi] at h
      exact .inr (.inr (.inl ⟨isOneOf_of_decode hw hi rfl (by decide), (eq_of_beq h).symm⟩))
  | load x =>
      rw [hi] at h
      have hz : z ≤ x := by simpa [writes] using h
      rw [hx hi rfl] at hz
      exact .inr (.inr (.inr ⟨isOneOf_of_decode hw hi rfl (by decide), hz⟩))
  | _ => rw [hi] at h; cases h

theorem mayStore_of_execute (hw : 0 ≤ w ∧ w ≤ 0xFFFF) {s t : State}
    (h : (decode w).execute s.advance = .ok t) {k : Fin 4096}
    (hk : t.memory.bytes.get k ≠ s.memory.bytes.get k) : MayStore w s.registers.i k.val := by
  cases hwrites : (decode w).writesMemory with
  | false =>
      rw [(effect_of_execute h).memory hwrites] at hk
      exact absurd rfl hk
  | true =>
      cases hi : decode w with
      | storeDecimal x =>
          rw [hi] at h
          obtain ⟨memory, hload, rfl⟩ := execute_storeDecimal_eq_ok_iff.1 h
          have hblock := Memory.mem_block_of_load hload hk
          change s.registers.i ≤ _ ∧ _ < s.registers.i + 3 at hblock
          exact .inl ⟨isOneOf_of_decode hw hi rfl (by decide), by omega⟩
      | store x =>
          rw [hi] at h
          obtain ⟨memory, hload, rfl⟩ := execute_store_eq_ok_iff.1 h
          have hblock := Memory.mem_block_of_load hload hk
          have hx : x = Word.x w := x?_decode (by rw [hi]; rfl)
          rw [List.length_map, length_upTo, hx] at hblock
          change s.registers.i ≤ _ ∧ _ < s.registers.i + _ at hblock
          exact .inr ⟨isOneOf_of_decode hw hi rfl (by decide), by omega⟩
      | _ =>
          rw [hi] at hwrites
          cases hwrites

/-- **Footprints.** A word of 16 bits that is carried out changes nothing but what its form
allows. -/
theorem footprint_of_execute (hw : 0 ≤ w ∧ w ≤ 0xFFFF) {s t : State}
    (h : (decode w).execute s.advance = .ok t) : Footprint w s t := by
  have heffect := effect_of_execute h
  -- each part is left alone unless the instruction has one of the forms
  have hforms {fs : List String} (hfs : ∀ f ∈ fs, f ∈ forms) {P : Prop}
      (hkeep : ¬ (decode w).IsOneOf fs → P) (hchange : ¬ P) : IsOneOf w fs := by
    refine (isOneOf_iff hw hfs).2 ?_
    by_contra hno
    exact hchange (hkeep hno)
  exact {
    memory := fun k hk => mayStore_of_execute hw h hk
    screen := hforms (by decide) fun hno => heffect.screen (writesScreen_of_not_isOneOf hno)
    stack := hforms (by decide) fun hno => by
      rw [heffect.stack, (nextStack_of_not_isOneOf s hno).1]
    sp := hforms (by decide) fun hno => by
      rw [heffect.sp, (nextStack_of_not_isOneOf s hno).2]
    index := hforms (by decide) fun hno => by
      rw [heffect.index, nextIndex_of_not_isOneOf s hno]
    registers := fun z hz => by
      refine mayWrite_of_writes hw ?_
      by_contra hno
      exact hz (get_of_not_writes (Bool.eq_false_iff.2 hno) h)
    keys := fun key => by rw [heffect.keypad, isDown_nextKeypad]
    latch := hforms (by decide) fun hno => by
      rw [heffect.keypad, nextKeypad_of_not_isOneOf s hno]
    delay := hforms (by decide) fun hno => by
      rw [heffect.delay, nextDelay_of_not_isOneOf s hno]
    sound := hforms (by decide) fun hno => by
      rw [heffect.sound, nextSound_of_not_isOneOf s hno]
    random := hforms (by decide) fun hno => by
      rw [heffect.random, nextRandom_of_not_isOneOf s hno] }

/-- A word that has none of the forms of the instructions does nothing. -/
theorem execute_of_isOneOf_none (hw : 0 ≤ w ∧ w ≤ 0xFFFF) (hnone : ¬ IsOneOf w forms) {s t : State}
    (h : (decode w).execute s.advance = .ok t) : t = s.advance := by
  rw [(decode_eq_unknown_iff hw).2 hnone] at h
  cases h
  rfl

end Decode

end Word

end Chip8
