import Chip8.Processor
import Chip8.Proofs.Screen.Draw

set_option autoImplicit false

/-! # What an instruction changes

For each part of the state a function says what an instruction makes of it: `nextPc`, `nextStack`,
`nextSp`, `nextIndex`, `nextKeypad`. An instruction that succeeds leaves just that
(`effect_of_execute`), so that the body of `execute` is hardly looked into anywhere else.

The functions take the state *before* the step, in which the program counter stands at the
instruction; `execute` is given the state in which it has been advanced.
-/

namespace Chip8

theorem map_eq_ok_iff {ε α β : Type} {f : α → β} {r : Except ε α} {b : β} :
    r.map f = .ok b ↔ ∃ a, r = .ok a ∧ f a = b := by
  cases r <;> simp [Except.map]

theorem map_eq_error_iff {ε α β : Type} {f : α → β} {r : Except ε α} {e : ε} :
    r.map f = .error e ↔ r = .error e := by
  cases r <;> simp [Except.map]

theorem map_map {ε α β γ : Type} (r : Except ε α) (f : α → β) (g : β → γ) :
    (r.map f).map g = r.map (g ∘ f) :=
  (LawfulFunctor.comp_map f g r).symm

/-! ## The fields of a register file -/

namespace Registers

variable (r : Registers)

@[simp] theorem i_skipIf (c : Bool) : (r.skipIf c).i = r.i := by unfold skipIf; split <;> rfl
@[simp] theorem sp_skipIf (c : Bool) : (r.skipIf c).sp = r.sp := by unfold skipIf; split <;> rfl
@[simp] theorem pc_skipIf (c : Bool) : (r.skipIf c).pc = if c then r.pc + 2 else r.pc := by
  unfold skipIf
  split <;> rfl

/-- Setting a row of registers changes nothing but their values. -/
theorem setFrom_eq (k : Nat) (bytes : List UInt8) :
    r.setFrom k bytes = { r with v := (r.setFrom k bytes).v } := by
  induction bytes generalizing r k with
  | nil => rfl
  | cons b rest ih => exact ih { r with v := r.v.setIfInBounds k b } (k + 1)

@[simp] theorem pc_setFrom (k : Nat) (bytes : List UInt8) : (r.setFrom k bytes).pc = r.pc := by
  rw [setFrom_eq]
@[simp] theorem sp_setFrom (k : Nat) (bytes : List UInt8) : (r.setFrom k bytes).sp = r.sp := by
  rw [setFrom_eq]

end Registers

namespace Instruction

/-! ## The instructions that can fail -/

theorem execute_call_eq_ok_iff {nnn : Fin 4096} {s t : State} :
    (call nnn).execute s = .ok t ↔
      ∃ stack, s.stack.push s.pc = .ok stack ∧
        { s with
          stack
          registers := { s.registers with sp := stack.size }.jump nnn.val } = t :=
  map_eq_ok_iff

theorem execute_draw_eq_ok_iff {x y : Reg} {n : Fin 16} {s t : State} :
    (draw x y n).execute s = .ok t ↔
      ∃ rows d, s.memory.block s.registers.i n.val = .ok rows ∧
        s.screen.draw (s.get x).toNat (s.get y).toNat (rows.map fun b => (b.toNat : Int)) = .ok d ∧
        { s with
          screen := d.screen
          registers := s.registers.set flag (if d.collided then 1 else 0) } = t := by
  rw [execute]
  cases s.memory.block s.registers.i n.val with
  | error e => simp
  | ok rows => simp [map_eq_ok_iff]

theorem execute_storeDecimal_eq_ok_iff {x : Reg} {s t : State} :
    (storeDecimal x).execute s = .ok t ↔
      ∃ memory, s.memory.load s.registers.i (decimalDigits (s.get x)) = .ok memory ∧
        { s with memory } = t :=
  map_eq_ok_iff

theorem execute_store_eq_ok_iff {x : Reg} {s t : State} :
    (store x).execute s = .ok t ↔
      ∃ memory,
        s.memory.load s.registers.i ((s.registers.upTo x).map fun b => (b.toNat : Int))
          = .ok memory ∧
        { s with memory, registers := s.registers.setI (s.registers.i + x.val + 1) } = t :=
  map_eq_ok_iff

theorem execute_load_eq_ok_iff {x : Reg} {s t : State} :
    (load x).execute s = .ok t ↔
      ∃ bytes, s.memory.block s.registers.i (x.val + 1) = .ok bytes ∧
        { s with
          registers := (s.registers.setFrom 0 bytes).setI (s.registers.i + x.val + 1) } = t :=
  map_eq_ok_iff

/-! ## What is left of each part of the state -/

/-- Whether an instruction skips the next one. -/
def skips (i : Instruction) (s : State) : Bool :=
  match i with
  | skipIfByte x kk => s.get x == kk
  | skipUnlessByte x kk => s.get x != kk
  | skipIfEqual x y => s.get x == s.get y
  | skipUnlessEqual x y => s.get x != s.get y
  | skipIfKey x => s.keypad.isDown (Key.ofByte (s.get x))
  | skipUnlessKey x => !s.keypad.isDown (Key.ofByte (s.get x))
  | _ => false

/-- Where an instruction continues if it does not leave that to the order of the program: jumps,
calls and returns at their target, and a wait for a key at itself. -/
def target? (i : Instruction) (s : State) : Option Int :=
  match i with
  | ret => some s.stack.top
  | jump nnn => some nnn.val
  | call nnn => some nnn.val
  | jumpOffset nnn => some (((s.get jumpBase).toNat + nnn.val) % 0x1000)
  | awaitKey _ => some s.pc
  | _ => none

/-- The program counter that an instruction leaves. -/
def nextPc (i : Instruction) (s : State) : Int :=
  (i.target? s).getD (if i.skips s then s.pc + 4 else s.pc + 2)

/-- The call stack that an instruction leaves. -/
def nextStack (i : Instruction) (s : State) : CallStack :=
  match i with
  | ret => s.stack.pop
  | call _ => { s.stack with entries := s.stack.entries.push (CallStack.clampWord (s.pc + 2)) }
  | _ => s.stack

/-- The stack pointer that an instruction leaves. -/
def nextSp (i : Instruction) (s : State) : Int :=
  match i with
  | ret => (i.nextStack s).size
  | call _ => (i.nextStack s).size
  | _ => s.registers.sp

/-- The index register that an instruction leaves. -/
def nextIndex (i : Instruction) (s : State) : Int :=
  match i with
  | loadIndex nnn => nnn.val
  | addIndex x => (s.registers.i + (s.get x).toNat) % 0x10000
  | loadGlyph x => (s.get x).toNat * 5
  | store x => (s.registers.i + x.val + 1) % 0x10000
  | load x => (s.registers.i + x.val + 1) % 0x10000
  | _ => s.registers.i

/-- The keypad that an instruction leaves. -/
def nextKeypad (i : Instruction) (s : State) : Keypad :=
  match i with
  | awaitKey _ => s.keypad.await
  | _ => s.keypad

/-- The delay timer that an instruction leaves. -/
def nextDelay (i : Instruction) (s : State) : Timer :=
  match i with
  | setDelay x => s.delay.set (s.get x).toNat
  | _ => s.delay

/-- The sound timer that an instruction leaves. -/
def nextSound (i : Instruction) (s : State) : Timer :=
  match i with
  | setSound x => s.sound.set (s.get x).toNat
  | _ => s.sound

/-- The source of random bytes that an instruction leaves. -/
def nextRandom (i : Instruction) (s : State) : Twister :=
  match i with
  | random _ _ => s.random.byte.2
  | _ => s.random

/-- Whether an instruction writes to memory. -/
def writesMemory : Instruction → Bool
  | storeDecimal _ => true
  | store _ => true
  | _ => false

/-- Whether an instruction changes the screen. -/
def writesScreen : Instruction → Bool
  | clear => true
  | draw _ _ _ => true
  | _ => false

/-- What an instruction leaves of a state, part by part. -/
structure Effect (i : Instruction) (s t : State) : Prop where
  pc : 0 ≤ s.pc ∧ s.pc ≤ 0xFFE → t.pc = i.nextPc s
  stack : t.stack = i.nextStack s
  sp : t.registers.sp = i.nextSp s
  index : t.registers.i = i.nextIndex s
  keypad : t.keypad = i.nextKeypad s
  delay : t.delay = i.nextDelay s
  sound : t.sound = i.nextSound s
  random : t.random = i.nextRandom s
  memory : i.writesMemory = false → t.memory = s.memory
  screen : i.writesScreen = false → t.screen = s.screen

/-- Whether an instruction does nothing but skip the next one or not. -/
def isSkip : Instruction → Bool
  | skipIfByte _ _ => true
  | skipUnlessByte _ _ => true
  | skipIfEqual _ _ => true
  | skipUnlessEqual _ _ => true
  | skipIfKey _ => true
  | skipUnlessKey _ => true
  | _ => false

theorem pc_skipIf_skip (r : Registers) (c : Bool) :
    (r.skip.skipIf c).pc = if c then r.pc + 4 else r.pc + 2 := by
  rw [Registers.pc_skipIf]
  show (if c then r.pc + 2 + 2 else r.pc + 2) = _
  split
  · omega
  · rfl

theorem effect_of_isSkip {i : Instruction} {s t : State} (hi : i.isSkip = true)
    (h : i.execute s.advance = .ok t) : Effect i s t := by
  cases i <;> cases hi <;> cases h <;>
    exact ⟨fun _ => pc_skipIf_skip s.registers _, rfl, Registers.sp_skipIf _ _,
      Registers.i_skipIf _ _, rfl, rfl, rfl, rfl, fun _ => rfl, fun _ => rfl⟩

theorem effect_of_execute {i : Instruction} {s t : State} (h : i.execute s.advance = .ok t) :
    Effect i s t := by
  -- Most parts are left as the body of `execute` says. A proof is needed where a setter cuts a
  -- number that fits already, and where the instruction can fail.
  cases i with
  | jump nnn =>
      cases h
      refine ⟨fun _ => ?_, rfl, rfl, rfl, rfl, rfl, rfl, rfl, fun _ => rfl, fun _ => rfl⟩
      show (nnn.val : Int) % 0x1000 = nnn.val
      omega
  | call nnn =>
      obtain ⟨stack, hpush, rfl⟩ := execute_call_eq_ok_iff.1 h
      obtain ⟨_, rfl⟩ := CallStack.push_eq_ok_iff.1 hpush
      refine ⟨fun _ => ?_, rfl, rfl, rfl, rfl, rfl, rfl, rfl, fun _ => rfl, fun _ => rfl⟩
      show (nnn.val : Int) % 0x1000 = nnn.val
      omega
  | awaitKey x =>
      cases h
      refine ⟨fun _ => ?_, rfl, rfl, rfl, rfl, rfl, rfl, rfl, fun _ => rfl, fun _ => rfl⟩
      show (s.pc + 2 - 2) % 0x1000 = s.pc
      omega
  | loadIndex nnn =>
      cases h
      refine ⟨fun _ => rfl, rfl, rfl, ?_, rfl, rfl, rfl, rfl, fun _ => rfl, fun _ => rfl⟩
      show (nnn.val : Int) % 0x10000 = nnn.val
      omega
  | loadGlyph x =>
      cases h
      refine ⟨fun _ => rfl, rfl, rfl, ?_, rfl, rfl, rfl, rfl, fun _ => rfl, fun _ => rfl⟩
      have := (s.get x).toNat_lt
      show ((0 : Int) + (s.get x).toNat * 5) % 0x10000 = (s.get x).toNat * 5
      omega
  | draw x y n =>
      obtain ⟨rows, d, _, _, rfl⟩ := execute_draw_eq_ok_iff.1 h
      exact ⟨fun _ => rfl, rfl, rfl, rfl, rfl, rfl, rfl, rfl, fun _ => rfl, nofun⟩
  | storeDecimal x =>
      obtain ⟨memory, _, rfl⟩ := execute_storeDecimal_eq_ok_iff.1 h
      exact ⟨fun _ => rfl, rfl, rfl, rfl, rfl, rfl, rfl, rfl, nofun, fun _ => rfl⟩
  | store x =>
      obtain ⟨memory, _, rfl⟩ := execute_store_eq_ok_iff.1 h
      exact ⟨fun _ => rfl, rfl, rfl, rfl, rfl, rfl, rfl, rfl, nofun, fun _ => rfl⟩
  | load x =>
      obtain ⟨bytes, _, rfl⟩ := execute_load_eq_ok_iff.1 h
      exact ⟨fun _ => Registers.pc_setFrom _ 0 bytes, rfl, Registers.sp_setFrom _ 0 bytes, rfl,
        rfl, rfl, rfl, rfl, fun _ => rfl, fun _ => rfl⟩
  | clear =>
      cases h
      exact ⟨fun _ => rfl, rfl, rfl, rfl, rfl, rfl, rfl, rfl, fun _ => rfl, nofun⟩
  | skipIfByte x kk => exact effect_of_isSkip rfl h
  | skipUnlessByte x kk => exact effect_of_isSkip rfl h
  | skipIfEqual x y => exact effect_of_isSkip rfl h
  | skipUnlessEqual x y => exact effect_of_isSkip rfl h
  | skipIfKey x => exact effect_of_isSkip rfl h
  | skipUnlessKey x => exact effect_of_isSkip rfl h
  | _ =>
      cases h
      exact ⟨fun _ => rfl, rfl, rfl, rfl, rfl, rfl, rfl, rfl, fun _ => rfl, fun _ => rfl⟩

end Instruction

end Chip8
