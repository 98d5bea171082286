import Chip8.Proofs.Instruction.Repeat
import Chip8.Proofs.Processor.Failure

set_option autoImplicit false

/-! # A step after one that has failed

A step that was refused is refused again, for nothing that decides about it has changed. A step that
has run off the memory has carried out its instruction and put the program counter back. If the same
word is there still, the next step carries out the instruction again. It runs off as far as the
first one did (`proceed_again`), unless it is a return, which goes on from another entry of the
stack, or a block of memory at the new `I` does not fit.
-/

namespace Chip8

namespace State

/-- An instruction that writes no memory leaves its own word. -/
theorem fetch_of_not_writesMemory {i : Instruction} {s t : State}
    (h : i.execute s.advance = .ok t) (hi : i.writesMemory = false) :
    (t.setPc s.pc).fetch = s.fetch := by
  have hmemory : (t.setPc s.pc).memory = s.memory := (Instruction.effect_of_execute h).memory hi
  rw [State.fetch, State.fetch, hmemory]
  rfl

theorem Agrees.pc_of_setPc {t u : State} {a : Int} (h : (t.setPc a).Agrees u) : u.pc = a := by
  show u.registers.pc = a
  rw [h.registers]
  rfl

end State

namespace Processor

variable {τ : Type} {maxDepth : Nat} {p q : Processor τ}

section Tick

variable [Sub τ] [LT τ] [DecidableLT τ]

theorem agrees_tick (p : Processor τ) (now : τ) : p.state.Agrees (p.tick now).state :=
  ⟨registers_tick p now, memory_tick p now, stack_tick p now, screen_tick p now, keypad_tick p now,
    random_tick p now⟩

/-- If no time passes at one reading, then a second tick at the same reading is too early. -/
theorem lastTick_tick (p : Processor τ) {now : τ} (hclock : now - now < p.period) :
    now - (p.tick now).lastTick < p.period := by
  unfold tick
  split
  · assumption
  · exact hclock

end Tick

/-! ## The instruction that is executed again -/

section Again

variable {i : Instruction} {s t u : State}

/-- A skip changes nothing that it depends on. -/
theorem skips_again (h : i.execute s.advance = .ok t) (hu : (t.setPc s.pc).Agrees u) :
    i.skips u = i.skips s := by
  cases hi : i.isSkip with
  | false => rw [skips_of_not_isSkip u hi, skips_of_not_isSkip s hi]
  | true =>
      have hrepeatable : i.isRepeatable = true := by cases i <;> first | rfl | cases hi
      have hget : ∀ z, u.get z = s.get z := by
        intro z
        rw [hu.of_setPc.1 z, Instruction.get_of_isRepeatable hrepeatable h z]
        cases i <;> first | rfl | cases hi
      have hkeypad : u.keypad = s.keypad := by
        rw [hu.keypad]
        show t.keypad = s.keypad
        rw [(Instruction.effect_of_execute h).keypad]
        cases i <;> first | rfl | cases hi
      cases i <;> simp only [Instruction.skips, hget, hkeypad]

/-- An instruction that follows the order of the program leads to the same address again. -/
theorem nextPc_again (h : i.execute s.advance = .ok t) (hu : (t.setPc s.pc).Agrees u)
    (htarget : i.target? s = none) : i.nextPc u = i.nextPc s := by
  have hpc : u.pc = s.pc := hu.pc_of_setPc
  have htarget' : i.target? u = none := by cases i <;> first | rfl | cases htarget
  rw [Instruction.nextPc, Instruction.nextPc, htarget, htarget', skips_again h hu, hpc]

/-- Of the instructions that follow the order of the program, a store and a load alone move their
block of memory, and so can fail only when they are executed again. -/
theorem fault?_again (h : i.execute s.advance = .ok t) (hu : (t.setPc s.pc).Agrees u)
    (hnone : i.fault? s = none) (htarget : i.target? s = none)
    (hblock : ∀ x, i = .store x ∨ i = .load x → u.registers.i + x.val ≤ 0xFFF) :
    i.fault? u = none := by
  have hindex : u.registers.i = i.nextIndex s := by
    rw [hu.of_setPc.2.1, (Instruction.effect_of_execute h).index]
  cases i with
  | call nnn => cases htarget
  | draw x y n =>
      change u.registers.i = s.registers.i at hindex
      simp only [Instruction.fault?, hindex] at hnone ⊢
      exact hnone
  | storeDecimal x =>
      change u.registers.i = s.registers.i at hindex
      simp only [Instruction.fault?, hindex] at hnone ⊢
      exact hnone
  | store x =>
      have hfits := hblock x (.inl rfl)
      rw [Instruction.fault?, if_neg (by omega)]
  | load x =>
      have hfits := hblock x (.inr rfl)
      rw [Instruction.fault?, if_neg (by omega)]
  | _ => rfl

/-- An instruction that follows the order of the program leaves the stack and the keypad alone. -/
theorem keeps_of_target? (htarget : i.target? s = none) (u : State) :
    i.nextStack u = u.stack ∧ i.nextSp u = u.registers.sp ∧ i.nextKeypad u = u.keypad := by
  cases i <;> first | exact ⟨rfl, rfl, rfl⟩ | cases htarget

end Again

/-- An instruction that has run off the memory, is no return and still fits its block runs off the
memory again, with the same fault. -/
theorem proceed_again (hp : p.Sound maxDepth) (hq : q.Sound maxDepth) (hm : q.mode = .running)
    {w : Word} {t : State} (hf : p.state.fetch = .ok w)
    (h : (Instruction.decode w).execute p.state.advance = .ok t) (hlt : 0xFFF < t.pc)
    (hu : (t.setPc p.state.pc).Agrees q.state) (hf' : q.state.fetch = .ok w)
    (hret : Instruction.decode w ≠ .ret)
    (hblock : ∀ x, Instruction.decode w = .store x ∨ Instruction.decode w = .load x →
      q.state.registers.i + x.val ≤ 0xFFF) :
    ∃ t', (Instruction.decode w).execute q.state.advance = .ok t' ∧
      t'.stack = q.state.stack ∧ t'.registers.sp = q.state.registers.sp ∧
      t'.keypad = q.state.keypad ∧
      q.proceed =
        { answer := .error (.pastEndOfMemory t.pc)
          after := { q with state := t'.setPc p.state.pc }
          log := w.records } := by
  have hpc := State.exists_fetch_iff.1 ⟨w, hf⟩
  have hnext := (Instruction.effect_of_execute h).pc hpc
  -- an instruction with a target of its own would be a return
  have htarget : (Instruction.decode w).target? p.state = none := by
    cases ht : (Instruction.decode w).target? p.state with
    | none => rfl
    | some a =>
        have ha : t.pc = a := by
          rw [hnext, Instruction.nextPc, ht]
          rfl
        rw [ha] at hlt
        exact absurd (eq_ret_of_target? hp hpc.2 ht hlt).1 hret
  have hnone := (Instruction.exists_execute_iff hp.state.index.1 hp.state.width_pos
    hp.state.height_pos).1 ⟨t, h⟩
  have hnone' := fault?_again h hu hnone htarget hblock
  obtain ⟨t', ht'⟩ := (Instruction.exists_execute_iff hq.state.index.1 hq.state.width_pos
    hq.state.height_pos).2 hnone'
  have heffect := Instruction.effect_of_execute ht'
  have hpc' : t'.pc = t.pc := by
    calc t'.pc
        = (Instruction.decode w).nextPc q.state := heffect.pc (State.exists_fetch_iff.1 ⟨w, hf'⟩)
      _ = (Instruction.decode w).nextPc p.state := nextPc_again h hu htarget
      _ = t.pc := hnext.symm
  obtain ⟨hstack, hsp, hkeypad⟩ := keeps_of_target? htarget q.state
  refine ⟨t', ht', heffect.stack.trans hstack, heffect.sp.trans hsp,
    heffect.keypad.trans hkeypad, ?_⟩
  rw [proceed_eq_of_proceeds (.overrun hm hf' ht' (by omega)), hpc', hu.pc_of_setPc]

/-- A return goes on from the top of the stack, whatever it is. -/
theorem proceed_ret (hm : q.mode = .running) {w : Word} (hf : q.state.fetch = .ok w)
    (hw : Instruction.decode w = .ret) :
    (q.state.stack.top ≤ 0xFFF →
      ∃ s, q.proceed.answer = .ok s ∧ s.registers.pc = q.state.stack.top) ∧
    (0xFFF < q.state.stack.top →
      q.proceed.answer = .error (.pastEndOfMemory q.state.stack.top)) := by
  obtain ⟨t, ht, hpc⟩ : ∃ t, (Instruction.decode w).execute q.state.advance = .ok t ∧
      t.pc = q.state.stack.top := by
    rw [hw]
    exact ⟨_, rfl, rfl⟩
  constructor
  · intro hle
    rw [proceed_eq_of_proceeds (.executes hm hf ht (by omega))]
    exact ⟨_, rfl, hpc⟩
  · intro hlt
    rw [proceed_eq_of_proceeds (.overrun hm hf ht (by omega)), hpc]

/-- A store or a load whose block does not fit is refused. -/
theorem refuses_of_block {w : Word} {x : Reg} (hf : q.state.fetch = .ok w)
    (hw : Instruction.decode w = .store x ∨ Instruction.decode w = .load x)
    (hlt : 0xFFF < q.state.registers.i + x.val) :
    ∃ a, q.state.Refuses maxDepth (.addressOutOfBounds a) := by
  rcases hw with hw | hw
  · exact ⟨_, .store hf hw hlt⟩
  · exact ⟨_, .load hf hw hlt⟩

end Processor

end Chip8
