import Chip8.Proofs.Processor.Step

set_option autoImplicit false

/-! # Sound states

A state is sound (`State.Sound`) if its index register has 16 bits, its stack pointer counts the
return addresses, of which there are no more than the stack may hold, every one of them lies behind
a call, and its screen is that of a machine. A processor is sound (`Processor.Sound`) if moreover
its program counter stands in memory or just behind it, and it waits for a key exactly as long as
the keypad does. Both are kept by every step (`Processor.Sound.step`).

The two bounds of the program counter carry each other: a return is bounded because a call was, and
a wait for a key stands at the word that began it, at most two addresses before the end.
-/

namespace Chip8

/-- What holds of the registers and devices at any moment. -/
structure State.Sound (maxDepth : Nat) (s : State) : Prop where
  index : 0 ≤ s.registers.i ∧ s.registers.i ≤ 0xFFFF
  sp : s.registers.sp = s.stack.size
  depth : s.stack.depth = maxDepth
  given : s.stack.given = .int maxDepth
  size : s.stack.size ≤ maxDepth
  entries : ∀ a ∈ s.stack.toList, 2 ≤ a ∧ a ≤ 0x1000
  width : s.screen.width = screenWidth
  height : s.screen.height = screenHeight

namespace State

theorem Sound.width_pos {maxDepth : Nat} {s : State} (h : s.Sound maxDepth) :
    0 < s.screen.width := by
  rw [h.width]
  decide

theorem Sound.height_pos {maxDepth : Nat} {s : State} (h : s.Sound maxDepth) :
    0 < s.screen.height := by
  rw [h.height]
  decide

/-- Soundness speaks of the registers but for the program counter, the stack and the screen. -/
theorem Sound.congr {maxDepth : Nat} {s t : State} (h : s.Sound maxDepth)
    (hi : t.registers.i = s.registers.i) (hsp : t.registers.sp = s.registers.sp)
    (hstack : t.stack = s.stack) (hscreen : t.screen = s.screen) : t.Sound maxDepth where
  index := by rw [hi]; exact h.index
  sp := by rw [hsp, hstack]; exact h.sp
  depth := by rw [hstack]; exact h.depth
  given := by rw [hstack]; exact h.given
  size := by rw [hstack]; exact h.size
  entries := by rw [hstack]; exact h.entries
  width := by rw [hscreen]; exact h.width
  height := by rw [hscreen]; exact h.height

theorem Sound.reset {maxDepth : Nat} {s : State} (h : s.Sound maxDepth) :
    s.reset.Sound maxDepth where
  index := by
    show (0 : Int) ≤ 0 ∧ (0 : Int) ≤ 0xFFFF
    decide
  sp := rfl
  depth := h.depth
  given := h.given
  size := Nat.zero_le maxDepth
  entries := nofun
  width := h.width
  height := h.height

/-- The address on top of the stack is one that a call has left, or zero. -/
theorem Sound.top {maxDepth : Nat} {s : State} (h : s.Sound maxDepth) :
    0 ≤ s.stack.top ∧ s.stack.top ≤ 0x1000 := by
  rw [CallStack.top_eq_getLastD, List.getLastD_eq_getLast?]
  cases hl : s.stack.toList.getLast? with
  | none => exact ⟨Int.le_refl 0, by decide⟩
  | some a =>
      have := h.entries a (List.mem_of_getLast? hl)
      show 0 ≤ a ∧ a ≤ 0x1000
      omega

theorem Sound.nextPc_nonneg {maxDepth : Nat} {s : State} (h : s.Sound maxDepth) (hpc : 0 ≤ s.pc)
    (i : Instruction) : 0 ≤ i.nextPc s := by
  have hskip : 0 ≤ if i.skips s then s.pc + 4 else s.pc + 2 := by split <;> omega
  unfold Instruction.nextPc
  cases i with
  | ret => exact h.top.1
  | jump nnn => exact Int.natCast_nonneg _
  | call nnn => exact Int.natCast_nonneg _
  | jumpOffset nnn => exact Int.emod_nonneg _ (by decide)
  | awaitKey x => exact hpc
  | _ => exact hskip

theorem Sound.nextIndex {maxDepth : Nat} {s : State} (h : s.Sound maxDepth) (i : Instruction) :
    0 ≤ i.nextIndex s ∧ i.nextIndex s ≤ 0xFFFF := by
  have hi := h.index
  cases i with
  | loadGlyph x =>
      have := (s.get x).toNat_lt
      show 0 ≤ ((s.get x).toNat : Int) * 5 ∧ ((s.get x).toNat : Int) * 5 ≤ 0xFFFF
      omega
  | loadIndex nnn => exact ⟨Int.natCast_nonneg _, by show (nnn.val : Int) ≤ 0xFFFF; omega⟩
  | addIndex x =>
      show 0 ≤ (s.registers.i + (s.get x).toNat) % 0x10000 ∧ _ % 0x10000 ≤ 0xFFFF
      omega
  | store x =>
      show 0 ≤ (s.registers.i + x.val + 1) % 0x10000 ∧ _ % 0x10000 ≤ 0xFFFF
      omega
  | load x =>
      show 0 ≤ (s.registers.i + x.val + 1) % 0x10000 ∧ _ % 0x10000 ≤ 0xFFFF
      omega
  | _ => exact hi

/-- The stack after an instruction that does not overflow it. -/
theorem Sound.nextStack {maxDepth : Nat} {s : State} (h : s.Sound maxDepth)
    (hpc : 0 ≤ s.pc ∧ s.pc ≤ 0xFFE) {i : Instruction} (hi : i.fault? s = none) :
    (i.nextStack s).size ≤ maxDepth ∧ ∀ a ∈ (i.nextStack s).toList, 2 ≤ a ∧ a ≤ 0x1000 := by
  cases i with
  | ret =>
      constructor
      · have := h.size
        rw [← CallStack.length_toList] at this ⊢
        show s.stack.pop.toList.length ≤ maxDepth
        rw [CallStack.toList_pop, List.length_dropLast]
        omega
      · intro a ha
        change a ∈ s.stack.pop.toList at ha
        rw [CallStack.toList_pop] at ha
        exact h.entries a (List.dropLast_subset _ ha)
  | call nnn =>
      have hroom : s.stack.size < s.stack.depth := by
        refine Nat.lt_of_not_le fun hfull => ?_
        rw [Instruction.fault?, if_pos hfull] at hi
        cases hi
      have hpush := CallStack.push_eq_ok_iff (a := s.pc + 2).2 ⟨hroom, rfl⟩
      -- the call stands at a word, and so leaves an address between 2 and the end of memory
      have hlist : ((Instruction.call nnn).nextStack s).toList = s.stack.toList ++ [s.pc + 2] :=
        (CallStack.toList_push hpush).trans (by rw [CallStack.clampWord_of_mem (by omega)])
      constructor
      · rw [← CallStack.length_toList, hlist, List.length_append, CallStack.length_toList]
        rw [h.depth] at hroom
        exact hroom
      · intro a ha
        rw [hlist, List.mem_append, List.mem_singleton] at ha
        rcases ha with ha | rfl
        · exact h.entries a ha
        · omega
  | _ => exact ⟨h.size, h.entries⟩

theorem Sound.execute {maxDepth : Nat} {s t : State} (h : s.Sound maxDepth)
    (hpc : 0 ≤ s.pc ∧ s.pc ≤ 0xFFE) {i : Instruction} (he : i.execute s.advance = .ok t) :
    t.Sound maxDepth := by
  have heffect := Instruction.effect_of_execute he
  have hgrid := Instruction.sameGrid_execute h.width_pos h.height_pos he
  have hfault := (Instruction.exists_execute_iff h.index.1 h.width_pos h.height_pos).1 ⟨t, he⟩
  obtain ⟨hsize, hentries⟩ := h.nextStack hpc hfault
  have hstack : (i.nextStack s).depth = s.stack.depth ∧ (i.nextStack s).given = s.stack.given := by
    cases i <;> exact ⟨rfl, rfl⟩
  have hsp : i.nextSp s = (i.nextStack s).size := by
    cases i with
    | ret => rfl
    | call nnn => rfl
    | _ => exact h.sp
  exact {
    index := by rw [heffect.index]; exact h.nextIndex i
    sp := by rw [heffect.sp, heffect.stack, hsp]
    depth := by rw [heffect.stack, hstack.1, h.depth]
    given := by rw [heffect.stack, hstack.2, h.given]
    size := by rw [heffect.stack]; exact hsize
    entries := by rw [heffect.stack]; exact hentries
    width := by rw [hgrid.width, h.width]
    height := by rw [hgrid.height, h.height] }

end State

/-! ## The wait for a key -/

/-- Only one word begins a wait, and the register that waits is its first operand. -/
theorem Instruction.x_of_decode_eq_awaitKey {w : Word} {x : Reg}
    (h : Instruction.decode w = .awaitKey x) : x = w.x := by
  unfold Instruction.decode at h
  split at h <;> cases h
  rfl

/-- An instruction that leaves the keypad waiting, when it was not, is a wait for a key. -/
theorem Instruction.eq_awaitKey_of_nextKeypad {i : Instruction} {s : State}
    (hidle : s.keypad.isAwaiting = false) (h : (i.nextKeypad s).isAwaiting = true) :
    ∃ x, i = .awaitKey x := by
  cases i with
  | awaitKey x => exact ⟨x, rfl⟩
  | _ =>
      change s.keypad.isAwaiting = true at h
      rw [hidle] at h
      cases h

theorem Keypad.isAwaiting_set (k : Keypad) (key : Key) (pressed : Bool) :
    (k.set key pressed).isAwaiting = k.isAwaiting := by
  unfold isAwaiting set
  by_cases h : k.goesDown key pressed
  · rw [if_pos h]
    cases k.latch <;> rfl
  · rw [if_neg h]

namespace Processor

variable {τ : Type} {maxDepth : Nat} {p : Processor τ}

/-- What holds of a processor between two steps. -/
structure Sound (maxDepth : Nat) (p : Processor τ) : Prop where
  state : p.state.Sound maxDepth
  pc : 0 ≤ p.state.pc ∧ p.state.pc ≤ 0x1000
  /-- A wait stands at a word, so that there is room to go on behind it. -/
  waits : ∀ x, p.mode = .awaitingKey x → p.state.pc ≤ 0xFFE
  latch : p.mode = .running ↔ p.state.keypad.isAwaiting = false

/-- A processor that waits has its keypad wait. -/
theorem Sound.isAwaiting {x : Reg} (h : p.Sound maxDepth) (hx : p.mode = .awaitingKey x) :
    p.state.keypad.isAwaiting = true := by
  cases hk : p.state.keypad.isAwaiting with
  | true => rfl
  | false =>
      have := h.latch.2 hk
      rw [hx] at this
      cases this

theorem Sound.setKey (h : p.Sound maxDepth) (key : Key) (pressed : Bool) :
    Sound maxDepth
      { p with state := { p.state with keypad := p.state.keypad.set key pressed } } where
  state := h.state.congr rfl rfl rfl rfl
  pc := h.pc
  waits := h.waits
  latch := by rw [Keypad.isAwaiting_set]; exact h.latch

/-- A wait that ends leaves the program counter behind its word, which may be the last one. -/
theorem Sound.resolve (h : p.Sound maxDepth) : p.resolve.2.Sound maxDepth := by
  rcases p.resolve_cases with hr | ⟨x, key, hx, _, hr⟩
  · rw [hr]
    exact h
  · rw [hr]
    have hpc := h.pc
    have hroom := h.waits x hx
    exact {
      state := h.state.congr rfl rfl rfl rfl
      pc := by
        show 0 ≤ p.state.pc + 2 ∧ p.state.pc + 2 ≤ 0x1000
        omega
      waits := nofun
      latch := ⟨fun _ => rfl, fun _ => rfl⟩ }

theorem Sound.reset (h : p.Sound maxDepth) (now : τ) : (p.reset now).Sound maxDepth where
  state := h.state.reset
  pc := by
    show (0 : Int) ≤ 0x200 ∧ (0x200 : Int) ≤ 0x1000
    decide
  waits := nofun
  latch := ⟨fun _ => rfl, fun _ => rfl⟩

section Clock

variable [Sub τ] [LT τ] [DecidableLT τ]

theorem Sound.tick (h : p.Sound maxDepth) (now : τ) : (p.tick now).Sound maxDepth where
  state := h.state.congr (by rw [registers_tick]) (by rw [registers_tick]) (by rw [stack_tick])
    (by rw [screen_tick])
  pc := by rw [pc_tick]; exact h.pc
  waits := by rw [mode_tick, pc_tick]; exact h.waits
  latch := by rw [mode_tick, keypad_tick]; exact h.latch

end Clock

/-- An instruction that was carried out within the memory leaves a sound processor. -/
theorem Sound.executed (h : p.Sound maxDepth) (hm : p.mode = .running) {w : Word} {t : State}
    (hf : p.state.fetch = .ok w)
    (he : (Instruction.decode w).execute p.state.advance = .ok t) (hpc : t.pc ≤ 0xFFF) :
    (p.executed w t).Sound maxDepth := by
  have hp := State.exists_fetch_iff.1 ⟨w, hf⟩
  have heffect := Instruction.effect_of_execute he
  have hnext := heffect.pc hp
  have hidle := h.latch.1 hm
  have hmode : (p.executed w t).mode = if t.keypad.isAwaiting then .awaitingKey w.x else p.mode :=
    rfl
  refine ⟨h.state.execute hp he, ⟨?_, ?_⟩, ?_, ?_⟩
  · calc (0 : Int)
        ≤ (Instruction.decode w).nextPc p.state := h.state.nextPc_nonneg hp.1 _
      _ = t.pc := hnext.symm
  · show t.pc ≤ 0x1000
    omega
  · -- a processor that waits now has just begun to, and its program counter was put back
    intro x hx
    have hawait : t.keypad.isAwaiting = true := by
      cases hk : t.keypad.isAwaiting with
      | true => rfl
      | false =>
          rw [hmode, hk, if_neg Bool.false_ne_true, hm] at hx
          cases hx
    rw [heffect.keypad] at hawait
    obtain ⟨y, hy⟩ := Instruction.eq_awaitKey_of_nextKeypad hidle hawait
    show t.pc ≤ 0xFFE
    rw [hnext, hy]
    exact hp.2
  · rw [hmode]
    show _ ↔ t.keypad.isAwaiting = false
    cases t.keypad.isAwaiting with
    | true => exact ⟨nofun, nofun⟩
    | false => exact ⟨fun _ => rfl, fun _ => hm⟩

theorem Sound.of_proceeds {o : Outcome (Processor τ) Snapshot} (h : p.Sound maxDepth)
    (ho : Proceeds p o) : o.after.Sound maxDepth := by
  cases ho with
  | waits hx => exact h.resolve
  | unfetched hm hf => exact h
  | refused hm hf he => exact h
  | executes hm hf he hpc => exact h.executed hm hf he hpc
  | @overrun w t hm hf he hpc =>
      have hp := State.exists_fetch_iff.1 ⟨w, hf⟩
      have heffect := Instruction.effect_of_execute he
      refine ⟨(h.state.execute hp he).congr rfl rfl rfl rfl, h.pc, ?_, ?_⟩
      · intro x hx
        cases hm.symm.trans hx
      · -- a wait for a key stays where it is, and so is not what has led behind the end
        have hidle := h.latch.1 hm
        have hkeypad : t.keypad.isAwaiting = false := by
          cases hk : t.keypad.isAwaiting with
          | false => rfl
          | true =>
              rw [heffect.keypad] at hk
              obtain ⟨y, hy⟩ := Instruction.eq_awaitKey_of_nextKeypad hidle hk
              rw [heffect.pc hp, hy] at hpc
              change 0xFFF < p.state.pc at hpc
              omega
        exact ⟨fun _ => hkeypad, fun _ => hm⟩

/-- A step, whether or not it fails, leaves a sound processor. -/
theorem Sound.step [Sub τ] [LT τ] [DecidableLT τ] (h : p.Sound maxDepth) (now : τ) :
    (p.step now).after.Sound maxDepth :=
  (h.tick now).of_proceeds (proceeds _)

end Processor

end Chip8
