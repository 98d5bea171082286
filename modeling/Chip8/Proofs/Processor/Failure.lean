import Chip8.Proofs.Processor.Sound

set_option autoImplicit false

/-! # When a step fails

A step of a processor that does not wait can fail in two ways. It is refused (`Refuses`) if its word
cannot be fetched or if the instruction cannot be executed; then nothing but the timers is changed.
Or it runs off the memory (`RunsOff`): the instruction is carried out, but leaves the program
counter behind the last address, and only the program counter is put back.

`failing_iff` says that these are all the failures of a step, and `proceed_of_refuses` and
`proceed_of_runsOff` what each of them leaves. The tick of the timers before a step changes none of
this (`step_fails_iff`).
-/

namespace Chip8

namespace State

/-- The fault with which a step is refused. Of a block of memory that does not fit, a sprite and a
load name the first address that is missing, and the two stores `I` or else the last address of the
block. -/
inductive Refuses (maxDepth : Nat) (s : State) : Fault → Prop where
  | fetch : 0xFFE < s.pc → Refuses maxDepth s (.addressOutOfBounds 0x1000)
  | draw {w : Word} {x y : Reg} {n : Fin 16} : s.fetch = .ok w →
      Instruction.decode w = .draw x y n → 1 ≤ n.val → 0xFFF < s.registers.i + n.val - 1 →
      Refuses maxDepth s (.addressOutOfBounds (max s.registers.i 0x1000))
  | storeDecimal {w : Word} {x : Reg} : s.fetch = .ok w →
      Instruction.decode w = .storeDecimal x → 0xFFF < s.registers.i + 2 →
      Refuses maxDepth s (.addressOutOfBounds
        (if 0xFFF < s.registers.i then s.registers.i else s.registers.i + 2))
  | store {w : Word} {x : Reg} : s.fetch = .ok w →
      Instruction.decode w = .store x → 0xFFF < s.registers.i + x.val →
      Refuses maxDepth s (.addressOutOfBounds
        (if 0xFFF < s.registers.i then s.registers.i else s.registers.i + x.val))
  | load {w : Word} {x : Reg} : s.fetch = .ok w →
      Instruction.decode w = .load x → 0xFFF < s.registers.i + x.val →
      Refuses maxDepth s (.addressOutOfBounds (max s.registers.i 0x1000))
  | call {w : Word} {nnn : Fin 4096} : s.fetch = .ok w →
      Instruction.decode w = .call nnn → s.stack.toList.length = maxDepth →
      Refuses maxDepth s (.stackOverflow (.int maxDepth))

/-- The program counter behind the last address that the instruction of a step leaves, if it leaves
one. Jumps and calls stay in the memory, and so does a wait for a key. -/
inductive RunsOff (s : State) : Int → Prop where
  | next {w : Word} : s.fetch = .ok w → (Instruction.decode w).target? s = none →
      (Instruction.decode w).isSkip = false → 0xFFF < s.pc + 2 → RunsOff s (s.pc + 2)
  | skipped {w : Word} : s.fetch = .ok w → (Instruction.decode w).isSkip = true →
      (Instruction.decode w).skips s = true → 0xFFF < s.pc + 4 → RunsOff s (s.pc + 4)
  | notSkipped {w : Word} : s.fetch = .ok w → (Instruction.decode w).isSkip = true →
      (Instruction.decode w).skips s = false → 0xFFF < s.pc + 2 → RunsOff s (s.pc + 2)
  | ret {w : Word} : s.fetch = .ok w → Instruction.decode w = .ret →
      s.stack.toList.getLast? = some 0x1000 → RunsOff s 0x1000

/-- The fault of a step, if it fails. -/
def Failing (maxDepth : Nat) (s : State) (e : Fault) : Prop :=
  s.Refuses maxDepth e ∨
    (∀ f, ¬ s.Refuses maxDepth f) ∧ ∃ pc, s.RunsOff pc ∧ e = .pastEndOfMemory pc

theorem blockFault_eq_max (first : Int) :
    Instruction.blockFault first 0x1000 = .addressOutOfBounds (max first 0x1000) := by
  have hmax : (if 0xFFF < first then first else 0x1000) = max first 0x1000 := by
    split <;> omega
  rw [Instruction.blockFault, hmax]

end State

namespace Processor

variable {τ : Type} {maxDepth : Nat} {p : Processor τ} {e : Fault}

theorem refuses_iff (h : p.Sound maxDepth) :
    p.state.Refuses maxDepth e ↔ p.state.fetch = .error e ∨
      ∃ w, p.state.fetch = .ok w ∧ (Instruction.decode w).fault? p.state = some e := by
  have hpc := h.pc
  have hmax : 0xFFE < p.state.pc → max p.state.pc 0x1000 = 0x1000 := by
    intro hlt
    omega
  constructor
  · intro hr
    cases hr with
    | fetch hlt => exact .inl ((State.fetch_eq_error_iff hpc.1).2 ⟨hlt, by rw [hmax hlt]⟩)
    | draw hf hw hn hlt =>
        refine .inr ⟨_, hf, ?_⟩
        rw [hw, Instruction.fault?, if_pos ⟨hn, hlt⟩, State.blockFault_eq_max]
    | storeDecimal hf hw hlt =>
        refine .inr ⟨_, hf, ?_⟩
        rw [hw, Instruction.fault?, if_pos hlt, Instruction.blockFault]
    | store hf hw hlt =>
        refine .inr ⟨_, hf, ?_⟩
        rw [hw, Instruction.fault?, if_pos hlt, Instruction.blockFault]
    | load hf hw hlt =>
        refine .inr ⟨_, hf, ?_⟩
        rw [hw, Instruction.fault?, if_pos hlt, State.blockFault_eq_max]
    | call hf hw hfull =>
        refine .inr ⟨_, hf, ?_⟩
        rw [CallStack.length_toList] at hfull
        have hdepth : p.state.stack.depth ≤ p.state.stack.size :=
          Nat.le_of_eq (h.state.depth.trans hfull.symm)
        rw [hw, Instruction.fault?, if_pos hdepth, h.state.given]
  · rintro (hf | ⟨w, hf, hfault⟩)
    · obtain ⟨hlt, rfl⟩ := (State.fetch_eq_error_iff hpc.1).1 hf
      rw [hmax hlt]
      exact .fetch hlt
    · cases hw : Instruction.decode w with
      | draw x y n =>
          rw [hw, Instruction.fault?, Instruction.ite_some_eq_some_iff] at hfault
          obtain ⟨⟨hn, hlt⟩, rfl⟩ := hfault
          rw [State.blockFault_eq_max]
          exact .draw hf hw hn hlt
      | storeDecimal x =>
          rw [hw, Instruction.fault?, Instruction.ite_some_eq_some_iff] at hfault
          obtain ⟨hlt, rfl⟩ := hfault
          exact .storeDecimal hf hw hlt
      | store x =>
          rw [hw, Instruction.fault?, Instruction.ite_some_eq_some_iff] at hfault
          obtain ⟨hlt, rfl⟩ := hfault
          exact .store hf hw hlt
      | load x =>
          rw [hw, Instruction.fault?, Instruction.ite_some_eq_some_iff] at hfault
          obtain ⟨hlt, rfl⟩ := hfault
          rw [State.blockFault_eq_max]
          exact .load hf hw hlt
      | call nnn =>
          rw [hw, Instruction.fault?, Instruction.ite_some_eq_some_iff] at hfault
          obtain ⟨hfull, rfl⟩ := hfault
          have hsize := h.state.size
          rw [h.state.depth] at hfull
          rw [h.state.given]
          exact .call hf hw (by rw [CallStack.length_toList]; omega)
      | _ =>
          rw [hw] at hfault
          cases hfault

/-- A step whose instruction has no fault is not refused. -/
theorem not_refuses_of_fault? (h : p.Sound maxDepth) {w : Word} (hf : p.state.fetch = .ok w)
    (hnone : (Instruction.decode w).fault? p.state = none) (f : Fault) :
    ¬ p.state.Refuses maxDepth f := by
  intro hr
  rcases (refuses_iff h).1 hr with hbad | ⟨v, hv, hfault⟩
  · cases hbad.symm.trans hf
  · cases hf.symm.trans hv
    cases hfault.symm.trans hnone

/-- A skip goes on in the order of the program, and nothing else skips. -/
theorem target?_of_isSkip {i : Instruction} (s : State) (hi : i.isSkip = true) :
    i.target? s = none := by
  cases i <;> first | rfl | cases hi

theorem skips_of_not_isSkip {i : Instruction} (s : State) (hi : i.isSkip = false) :
    i.skips s = false := by
  cases i <;> first | rfl | cases hi

/-- Of the instructions that go elsewhere only a return can leave the memory, and it returns to the
address just behind it. -/
theorem eq_ret_of_target? (h : p.Sound maxDepth) (hpc : p.state.pc ≤ 0xFFE) {i : Instruction}
    {a : Int} (ht : i.target? p.state = some a) (ha : 0xFFF < a) :
    i = .ret ∧ a = 0x1000 ∧ p.state.stack.toList.getLast? = some 0x1000 := by
  cases i with
  | ret =>
      -- the bound on the entries of the stack leaves a single address behind the memory
      have htop := h.state.top
      rw [CallStack.top_eq_getLastD, List.getLastD_eq_getLast?] at htop
      change some p.state.stack.top = some a at ht
      rw [CallStack.top_eq_getLastD, List.getLastD_eq_getLast?] at ht
      cases hl : p.state.stack.toList.getLast? with
      | none =>
          rw [hl] at ht
          cases ht
          exact absurd ha (by decide)
      | some b =>
          rw [hl] at ht htop
          cases ht
          change 0 ≤ b ∧ b ≤ 0x1000 at htop
          change 0xFFF < b at ha
          have hb : b = 0x1000 := by omega
          exact ⟨rfl, hb, by rw [hb]⟩
  | jump nnn =>
      cases ht
      omega
  | call nnn =>
      cases ht
      omega
  | jumpOffset nnn =>
      cases ht
      omega
  | awaitKey x =>
      cases ht
      omega
  | _ => cases ht

theorem runsOff_iff (h : p.Sound maxDepth) {pc : Int} :
    p.state.RunsOff pc ↔ ∃ w, p.state.fetch = .ok w ∧
      (Instruction.decode w).nextPc p.state = pc ∧ 0xFFF < pc := by
  constructor
  · intro hr
    cases hr with
    | @next w hf ht hi hlt =>
        refine ⟨w, hf, ?_, hlt⟩
        rw [Instruction.nextPc, ht, skips_of_not_isSkip _ hi]
        rfl
    | @skipped w hf hi hs hlt =>
        refine ⟨w, hf, ?_, hlt⟩
        rw [Instruction.nextPc, target?_of_isSkip _ hi, hs]
        rfl
    | @notSkipped w hf hi hs hlt =>
        refine ⟨w, hf, ?_, hlt⟩
        rw [Instruction.nextPc, target?_of_isSkip _ hi, hs]
        rfl
    | @ret w hf hw hl =>
        refine ⟨w, hf, ?_, by decide⟩
        rw [hw]
        show p.state.stack.top = 0x1000
        rw [CallStack.top_eq_getLastD, List.getLastD_eq_getLast?, hl]
        rfl
  · rintro ⟨w, hf, rfl, hlt⟩
    have hpc := State.exists_fetch_iff.1 ⟨w, hf⟩
    -- the instruction goes to a target of its own, or follows the order of the program
    cases ht : (Instruction.decode w).target? p.state with
    | some a =>
        have hnext : (Instruction.decode w).nextPc p.state = a := by
          rw [Instruction.nextPc, ht]
          rfl
        rw [hnext] at hlt ⊢
        obtain ⟨hw, rfl, hl⟩ := eq_ret_of_target? h hpc.2 ht hlt
        exact .ret hf hw hl
    | none =>
        cases hs : (Instruction.decode w).skips p.state with
        | true =>
            have hnext : (Instruction.decode w).nextPc p.state = p.state.pc + 4 := by
              rw [Instruction.nextPc, ht, hs]
              rfl
            have hi : (Instruction.decode w).isSkip = true := by
              cases hi : (Instruction.decode w).isSkip with
              | true => rfl
              | false =>
                  rw [skips_of_not_isSkip _ hi] at hs
                  cases hs
            rw [hnext] at hlt ⊢
            exact .skipped hf hi hs hlt
        | false =>
            have hnext : (Instruction.decode w).nextPc p.state = p.state.pc + 2 := by
              rw [Instruction.nextPc, ht, hs]
              rfl
            rw [hnext] at hlt ⊢
            cases hi : (Instruction.decode w).isSkip with
            | true => exact .notSkipped hf hi hs hlt
            | false => exact .next hf ht hi hlt

/-! ## What a failure leaves -/

/-- A step that is refused leaves the processor as the tick has left it. -/
theorem proceed_of_refuses (h : p.Sound maxDepth) (hm : p.mode = .running)
    (he : p.state.Refuses maxDepth e) :
    ∃ log, p.proceed = { answer := .error e, after := p, log } := by
  rcases (refuses_iff h).1 he with hf | ⟨w, hf, hfault⟩
  · exact ⟨_, proceed_eq_of_proceeds (.unfetched hm hf)⟩
  · have hx := (Instruction.execute_eq_error_iff h.state.index.1 h.state.width_pos
      h.state.height_pos).2 hfault
    exact ⟨_, proceed_eq_of_proceeds (.refused hm hf hx)⟩

/-- A step that runs off the memory leaves what its instruction leaves, but for the program
counter. -/
theorem proceed_of_runsOff (h : p.Sound maxDepth) (hm : p.mode = .running)
    (hno : ∀ f, ¬ p.state.Refuses maxDepth f) {pc : Int} (hr : p.state.RunsOff pc) :
    ∃ w t, p.state.fetch = .ok w ∧ (Instruction.decode w).execute p.state.advance = .ok t ∧
      t.pc = pc ∧
      p.proceed =
        { answer := .error (.pastEndOfMemory pc)
          after := { p with state := t.setPc p.state.pc }
          log := w.records } := by
  obtain ⟨w, hf, hnext, hlt⟩ := (runsOff_iff h).1 hr
  have hfault : (Instruction.decode w).fault? p.state = none := by
    cases hfault : (Instruction.decode w).fault? p.state with
    | none => rfl
    | some f => exact absurd ((refuses_iff h).2 (.inr ⟨w, hf, hfault⟩)) (hno f)
  obtain ⟨t, ht⟩ := (Instruction.exists_execute_iff h.state.index.1 h.state.width_pos
    h.state.height_pos).2 hfault
  have hpc : t.pc = pc := by
    rw [(Instruction.effect_of_execute ht).pc (State.exists_fetch_iff.1 ⟨w, hf⟩), hnext]
  refine ⟨w, t, hf, ht, hpc, ?_⟩
  rw [proceed_eq_of_proceeds (.overrun hm hf ht (by omega)), hpc]

/-- A step that fails is refused, or it runs off the memory. -/
theorem failing_of_error (h : p.Sound maxDepth) (he : p.proceed.answer = .error e) :
    p.state.Failing maxDepth e := by
  have ho := proceeds p
  generalize p.proceed = o at ho he
  cases ho with
  | waits hx => cases he
  | executes _ hf hx hpc => cases he
  | unfetched _ hf =>
      cases he
      exact .inl ((refuses_iff h).2 (.inl hf))
  | refused _ hf hx =>
      cases he
      have hfault := (Instruction.execute_eq_error_iff h.state.index.1 h.state.width_pos
        h.state.height_pos).1 hx
      exact .inl ((refuses_iff h).2 (.inr ⟨_, hf, hfault⟩))
  | @overrun w t _ hf hx hlt =>
      cases he
      have hpc := (Instruction.effect_of_execute hx).pc (State.exists_fetch_iff.1 ⟨w, hf⟩)
      have hnone := (Instruction.exists_execute_iff h.state.index.1 h.state.width_pos
        h.state.height_pos).1 ⟨t, hx⟩
      exact .inr ⟨not_refuses_of_fault? h hf hnone, t.pc,
        (runsOff_iff h).2 ⟨w, hf, hpc.symm, hlt⟩, rfl⟩

/-- The failures of a step. -/
theorem failing_iff (h : p.Sound maxDepth) (hm : p.mode = .running) :
    p.proceed.answer = .error e ↔ p.state.Failing maxDepth e := by
  constructor
  · exact failing_of_error h
  · rintro (hr | ⟨hno, pc, hr, rfl⟩)
    · obtain ⟨log, ho⟩ := proceed_of_refuses h hm hr
      rw [ho]
    · obtain ⟨w, t, _, _, _, ho⟩ := proceed_of_runsOff h hm hno hr
      rw [ho]

/-! ## The tick before a step -/

section Tick

variable [Sub τ] [LT τ] [DecidableLT τ] (now : τ)

theorem fault?_tick (p : Processor τ) (i : Instruction) :
    i.fault? (p.tick now).state = i.fault? p.state := by
  rcases p.state_tick now with hs | hs
  · rw [hs]
  · rw [hs]
    cases i <;> rfl

theorem nextPc_tick (p : Processor τ) (i : Instruction) :
    i.nextPc (p.tick now).state = i.nextPc p.state := by
  rcases p.state_tick now with hs | hs
  · rw [hs]
  · rw [hs]
    cases i <;> rfl

theorem refuses_tick (h : p.Sound maxDepth) :
    (p.tick now).state.Refuses maxDepth e ↔ p.state.Refuses maxDepth e := by
  simp only [refuses_iff (h.tick now), refuses_iff h, fetch_tick, fault?_tick]

theorem runsOff_tick (h : p.Sound maxDepth) {pc : Int} :
    (p.tick now).state.RunsOff pc ↔ p.state.RunsOff pc := by
  simp only [runsOff_iff (h.tick now), runsOff_iff h, fetch_tick, nextPc_tick]

/-- The failures of a step do not depend on the timers. -/
theorem step_fails_iff (h : p.Sound maxDepth) (hm : p.mode = .running) :
    (p.step now).answer = .error e ↔ p.state.Failing maxDepth e := by
  rw [step, failing_iff (h.tick now) ((mode_tick p now).trans hm)]
  simp only [State.Failing, refuses_tick now h, runsOff_tick now h]

theorem step_of_refuses (h : p.Sound maxDepth) (hm : p.mode = .running)
    (he : p.state.Refuses maxDepth e) :
    ∃ log, p.step now = { answer := .error e, after := p.tick now, log } :=
  proceed_of_refuses (h.tick now) ((mode_tick p now).trans hm) ((refuses_tick now h).2 he)

theorem step_of_runsOff (h : p.Sound maxDepth) (hm : p.mode = .running)
    (hno : ∀ f, ¬ p.state.Refuses maxDepth f) {pc : Int} (hr : p.state.RunsOff pc) :
    ∃ w t, p.state.fetch = .ok w ∧
      (Instruction.decode w).execute (p.tick now).state.advance = .ok t ∧ t.pc = pc ∧
      p.step now =
        { answer := .error (.pastEndOfMemory pc)
          after := { p.tick now with state := t.setPc p.state.pc }
          log := w.records } := by
  have hno' : ∀ f, ¬ (p.tick now).state.Refuses maxDepth f := by
    intro f hf
    exact hno f ((refuses_tick now h).1 hf)
  obtain ⟨w, t, hf, hx, ht, ho⟩ := proceed_of_runsOff (h.tick now) ((mode_tick p now).trans hm)
    hno' ((runsOff_tick now h).2 hr)
  rw [fetch_tick] at hf
  rw [pc_tick] at ho
  exact ⟨w, t, hf, hx, ht, ho⟩

end Tick

end Processor

end Chip8
