import Chip8.Proofs.Machine.Failure
import Chip8.Proofs.Processor.Retry

set_option autoImplicit false

/-! # Trying a failed step again

A machine that a failed step has halted can be started again, and its next step is at the same
instruction. What that step does depends on how the first one has failed (`retry_of_failure`). A
step that was refused fails again, and leaves all but the timers as it was. A step that has run off
the memory has had its effects, and the next one has them once more.

So a failure is not always repeated: a return from the last address has taken its address off the
stack, and the next step returns to another one (`retry_of_ret_succeeds`).
-/

namespace Chip8

namespace Machine

variable {τ : Type} [Sub τ] [LT τ] [DecidableLT τ]

/-- The step `r` of the machine `n` fails with `e` and leaves the stack and the keypad, and of the
registers the program counter and the stack pointer. -/
structure FailsAgain (e : Fault) (n : Machine τ) (r : Outcome (Machine τ) (Option Snapshot)) :
    Prop where
  answer : r.answer = .error e
  phase : r.after.phase = .halted
  pc : r.after.state.pc = n.state.pc
  sp : r.after.state.registers.sp = n.state.registers.sp
  stack : r.after.state.stack = n.state.stack
  keypad : r.after.state.keypad = n.state.keypad

/-- The step after a start is a step of the processor. -/
theorem retry_eq (n : Machine τ) (now : τ) :
    (n.start.step now).answer = (n.processor.step now).answer.map some ∧
      (n.start.step now).after.processor = (n.processor.step now).after := by
  constructor
  · exact answer_step_of_isRunning n.start now rfl
  · rw [step_of_isRunning n.start now rfl]
    exact processor_forceStep n.start now

/-- If it fails, it halts the machine. -/
theorem retry_of_error {c : Config} {n : Machine τ} (hn : Reachable c n) {now : τ} {e : Fault}
    (he : (n.processor.step now).answer = .error e) :
    (n.start.step now).answer = .error e ∧ (n.start.step now).after.phase = .halted := by
  have hfatal := isFatal_of_step hn he
  refine ⟨by rw [(retry_eq n now).1, he]; rfl, ?_⟩
  rw [step_of_isRunning n.start now rfl, forceStep_of_fatal (m := n.start) he hfatal]
  rfl

/-- Only a processor that does not wait can fail. -/
theorem running_of_error {m : Machine τ} {now : τ} {e : Fault}
    (he : (m.forceStep now).answer = .error e) : m.processor.mode = .running := by
  cases hmode : m.processor.mode with
  | running => rfl
  | awaitingKey x =>
      have hwaits := (Processor.mode_tick m.processor now).trans hmode
      rw [answer_forceStep, Processor.step, Processor.proceed_of_awaiting hwaits] at he
      cases he

/-- A step that is refused leaves all but the timers. -/
theorem refused_again {c : Config} {n : Machine τ} (hn : Reachable c n) (now : τ) {f : Fault}
    (hmode : n.processor.mode = .running) (hr : n.state.Refuses c.stackDepth f) :
    FailsAgain f n (n.start.step now) ∧ n.state.Agrees (n.start.step now).after.state := by
  obtain ⟨log, ho⟩ := Processor.step_of_refuses now hn.sound hmode hr
  obtain ⟨hanswer, hphase⟩ := retry_of_error hn (congrArg Outcome.answer ho)
  have hagrees : n.state.Agrees (n.start.step now).after.state := by
    rw [Machine.state, Machine.state, (retry_eq n now).2, ho]
    exact Processor.agrees_tick n.processor now
  have hregisters := hagrees.registers
  refine ⟨⟨hanswer, hphase, ?_, ?_, hagrees.stack, hagrees.keypad⟩, hagrees⟩
  · exact congrArg Registers.pc hregisters
  · rw [hregisters]

section RunsOff

variable {c : Config} {m n : Machine τ} {now : τ} {w : Word} {t : State}

/-- What the next two steps are about: `n` is left by a step of `m` that has executed `w` and has
run off the memory. -/
structure RanOff (now : τ) (m n : Machine τ) (w : Word) (t : State) : Prop where
  fetch : m.state.fetch = .ok w
  execute : (Instruction.decode w).execute (m.processor.tick now).state.advance = .ok t
  pc : 0xFFF < t.pc
  processor : n.processor = { m.processor.tick now with state := t.setPc m.state.pc }
  mode : m.processor.mode = .running

theorem RanOff.agrees (h : RanOff now m n w t) :
    (t.setPc (m.processor.tick now).state.pc).Agrees (n.processor.tick now).state := by
  have hagrees := Processor.agrees_tick n.processor now
  rw [h.processor] at hagrees
  rw [Processor.pc_tick, h.processor]
  exact hagrees

theorem RanOff.state (h : RanOff now m n w t) : n.state = t.setPc m.state.pc := by
  rw [Machine.state, h.processor]

theorem RanOff.pc_eq (h : RanOff now m n w t) : n.state.pc = m.state.pc := by
  rw [h.state]
  rfl

theorem RanOff.running (h : RanOff now m n w t) : (n.processor.tick now).mode = .running := by
  rw [Processor.mode_tick, h.processor]
  exact (Processor.mode_tick m.processor now).trans h.mode

/-- The word is still there after an instruction that writes no memory. -/
theorem RanOff.fetch_again (h : RanOff now m n w t)
    (hw : (Instruction.decode w).writesMemory = false) : n.state.fetch = .ok w := by
  have hsame := State.fetch_of_not_writesMemory h.execute hw
  rw [Processor.pc_tick] at hsame
  calc n.state.fetch
      = (t.setPc m.state.pc).fetch := by rw [h.state]
    _ = (m.processor.tick now).state.fetch := hsame
    _ = m.state.fetch := Processor.fetch_tick _ _
    _ = .ok w := h.fetch

/-- A return goes on from the entry below the one that has led off the memory. -/
theorem RanOff.ret_again (h : RanOff now m n w t) (hm : Reachable c m) (hn : Reachable c n)
    (hf : n.state.fetch = .ok w) (hw : Instruction.decode w = .ret) :
    (n.state.stack.top ≤ 0xFFF →
      ∃ s, (n.start.step now).answer = .ok (some s) ∧ s.registers.pc = n.state.stack.top) ∧
    (0xFFF < n.state.stack.top →
      (n.start.step now).answer = .error (.pastEndOfMemory t.pc)) := by
  have hf₁ := (Processor.fetch_tick n.processor now).trans hf
  obtain ⟨hinside, hbehind⟩ := Processor.proceed_ret h.running hf₁ hw
  rw [Processor.stack_tick] at hinside hbehind
  rw [(retry_eq n now).1, Processor.step]
  constructor
  · intro hle
    obtain ⟨s, hs, hpc⟩ := hinside hle
    rw [hs]
    exact ⟨s, rfl, hpc⟩
  · intro hlt
    -- both entries lie behind the memory, and only one address does
    have htop : n.state.stack.top = 0x1000 := by
      have := hn.sound.state.top.2
      change n.state.stack.top ≤ 0x1000 at this
      omega
    have hpc : t.pc = 0x1000 := by
      have hf₀ := (Processor.fetch_tick m.processor now).trans h.fetch
      have hnext := (Instruction.effect_of_execute h.execute).pc (State.exists_fetch_iff.1 ⟨w, hf₀⟩)
      have hfirst := (hm.sound.tick now).state.top.2
      have hlt := h.pc
      rw [hw] at hnext
      change t.pc = (m.processor.tick now).state.stack.top at hnext
      omega
    have hanswer := hbehind hlt
    change (n.processor.tick now).proceed.answer =
      .error (.pastEndOfMemory n.state.stack.top) at hanswer
    rw [hanswer, htop, hpc]
    rfl

/-- A store or a load whose block of memory does not fit any more is refused. -/
theorem RanOff.block_again (h : RanOff now m n w t) (hn : Reachable c n)
    (hf : n.state.fetch = .ok w) {x : Reg}
    (hw : Instruction.decode w = .store x ∨ Instruction.decode w = .load x)
    (hlt : 0xFFF < n.state.registers.i + x.val) :
    ∃ a, (n.start.step now).answer = .error (.addressOutOfBounds a) ∧
      n.state.Agrees (n.start.step now).after.state := by
  obtain ⟨a, ha⟩ := Processor.refuses_of_block hf hw hlt
  have hmode : n.processor.mode = .running :=
    (Processor.mode_tick n.processor now).symm.trans h.running
  obtain ⟨hfails, hagrees⟩ := refused_again hn now hmode ha
  exact ⟨a, hfails.answer, hagrees⟩

/-- The same instruction is carried out again, unless it is a return or its block does not fit. -/
theorem RanOff.failsAgain (h : RanOff now m n w t) (hm : Reachable c m) (hn : Reachable c n)
    (hf : n.state.fetch = .ok w) (hret : Instruction.decode w ≠ .ret)
    (hblock : ∀ x, Instruction.decode w = .store x ∨ Instruction.decode w = .load x →
      n.state.registers.i + x.val ≤ 0xFFF) :
    FailsAgain (.pastEndOfMemory t.pc) n (n.start.step now) ∧
      ∃ t', (Instruction.decode w).execute (n.processor.tick now).state.advance = .ok t' ∧
        (n.start.step now).after.state = t'.setPc n.state.pc := by
  have hf₀ := (Processor.fetch_tick m.processor now).trans h.fetch
  have hf₁ := (Processor.fetch_tick n.processor now).trans hf
  have hregisters := Processor.registers_tick n.processor now
  obtain ⟨t', ht', hstack, hsp, hkeypad, ho⟩ := Processor.proceed_again (hm.sound.tick now)
    (hn.sound.tick now) h.running hf₀ h.execute h.pc h.agrees hf₁ hret
    (by rw [hregisters]; exact hblock)
  rw [Processor.pc_tick] at ho
  have he : (n.processor.step now).answer = .error (.pastEndOfMemory t.pc) := by
    rw [Processor.step, ho]
  have hstate : (n.start.step now).after.state = t'.setPc m.state.pc := by
    rw [Machine.state, (retry_eq n now).2, Processor.step, ho]
    rfl
  obtain ⟨hanswer, hphase⟩ := retry_of_error hn he
  refine ⟨⟨hanswer, hphase, ?_, ?_, ?_, ?_⟩, t', ht', by rw [hstate, h.pc_eq]⟩
  · rw [hstate, h.pc_eq]
    rfl
  · rw [hstate]
    exact hsp.trans (congrArg Registers.sp hregisters)
  · rw [hstate]
    exact hstack.trans (Processor.stack_tick n.processor now)
  · rw [hstate]
    exact hkeypad.trans (Processor.keypad_tick n.processor now)

/-- A delay timer that was read does not count down before it is read again, if no time passes at
one reading of the clock. -/
theorem RanOff.delay (h : RanOff now m n w t) {x : Reg} (hw : Instruction.decode w = .readDelay x)
    (hclock : now - now < m.processor.period) :
    (n.processor.tick now).state.delay = (m.processor.tick now).state.delay := by
  -- the first tick was at the same reading, so that the second one is too early
  have hearly := Processor.lastTick_tick m.processor hclock
  have hsame : n.processor.tick now = n.processor := by
    rw [Processor.tick, if_pos]
    rw [h.processor]
    show now - (m.processor.tick now).lastTick < (m.processor.tick now).period
    rwa [Processor.period_tick]
  have hdelay := (Instruction.effect_of_execute h.execute).delay
  rw [hw] at hdelay
  rw [hsame, h.processor]
  exact hdelay

/-- A repeatable instruction makes no difference when it is carried out again. -/
theorem RanOff.agrees_again (h : RanOff now m n w t) (hm : Reachable c m) (hn : Reachable c n)
    (hf : n.state.fetch = .ok w) (hw : (Instruction.decode w).isRepeatable = true)
    (hclock : (∃ x, Instruction.decode w = .readDelay x) → now - now < m.processor.period) :
    n.state.Agrees (n.start.step now).after.state := by
  have hret : Instruction.decode w ≠ .ret := by
    intro hret
    rw [hret] at hw
    cases hw
  have hblock : ∀ x, Instruction.decode w = .store x ∨ Instruction.decode w = .load x →
      n.state.registers.i + x.val ≤ 0xFFF := by
    rintro x (hx | hx)
    · rw [hx] at hw
      cases hw
    · rw [hx] at hw
      cases hw
  obtain ⟨_, t', ht', hstate⟩ := h.failsAgain hm hn hf hret hblock
  have hdelay : (∃ x, Instruction.decode w = .readDelay x) →
      (n.processor.tick now).state.delay = (m.processor.tick now).state.delay := by
    rintro ⟨x, hx⟩
    exact h.delay hx (hclock ⟨x, hx⟩)
  have hagrees := Instruction.agrees_of_repeated hw h.execute h.agrees hdelay ht'
  rw [Processor.pc_tick] at hagrees
  rw [hstate, h.pc_eq, h.state]
  exact hagrees

end RunsOff

/-- **Trying again.** Let a step of a reachable machine fail, whether or not the machine runs, and
let it be started and take another step at the same reading of the clock.

If the first step was refused, the second one fails in the same way, and all but the timers stays.
Otherwise the instruction `w` was carried out and only the program counter put back. If the word is
still there, as it is after an instruction that writes no memory, it is carried out again:
- a return goes on from what is now on top of the stack;
- a store or a load whose next block of memory does not fit is refused;
- any other instruction fails as before, and leaves all but the timers if it is repeatable. -/
theorem retry_of_failure {c : Config} {m : Machine τ} (hm : Reachable c m) {now : τ} {e : Fault}
    (he : (m.forceStep now).answer = .error e) :
    let n := (m.forceStep now).after
    let r := n.start.step now
    (m.isRunning = true → (m.step now).answer = .error e ∧ (m.step now).after = n) ∧
    (m.state.Refuses c.stackDepth e → FailsAgain e n r ∧ n.state.Agrees r.after.state) ∧
    (∀ pc, e = .pastEndOfMemory pc → ∃ w, m.state.fetch = .ok w ∧
      ((Instruction.decode w).writesMemory = false → n.state.fetch = .ok w) ∧
      (n.state.fetch = .ok w →
        (Instruction.decode w = .ret →
          (n.state.stack.top ≤ 0xFFF →
            ∃ s, r.answer = .ok (some s) ∧ s.registers.pc = n.state.stack.top) ∧
          (0xFFF < n.state.stack.top → r.answer = .error e)) ∧
        (∀ x, Instruction.decode w = .store x ∨ Instruction.decode w = .load x →
          0xFFF < n.state.registers.i + x.val →
          ∃ a, r.answer = .error (.addressOutOfBounds a) ∧ n.state.Agrees r.after.state) ∧
        (Instruction.decode w ≠ .ret →
          (∀ x, Instruction.decode w = .store x ∨ Instruction.decode w = .load x →
            n.state.registers.i + x.val ≤ 0xFFF) →
          FailsAgain e n r ∧
            ∃ t, (Instruction.decode w).execute (n.processor.tick now).state.advance = .ok t ∧
              r.after.state = t.setPc n.state.pc) ∧
        ((Instruction.decode w).isRepeatable = true →
          ((∃ x, Instruction.decode w = .readDelay x) → now - now < m.processor.period) →
          n.state.Agrees r.after.state))) := by
  intro n r
  have hmode := running_of_error he
  have hn : Reachable c n := hm.happen (.pulse now)
  rw [answer_forceStep] at he
  have hprocessor : n.processor = (m.processor.step now).after := processor_forceStep m now
  refine ⟨?_, ?_, ?_⟩
  · intro hrun
    rw [answer_step_of_isRunning m now hrun, he, step_of_isRunning m now hrun]
    exact ⟨rfl, rfl⟩
  · intro hr
    obtain ⟨log, ho⟩ := Processor.step_of_refuses now hm.sound hmode hr
    rw [ho] at hprocessor he
    cases he
    have hnmode : n.processor.mode = .running := by
      rw [hprocessor]
      exact (Processor.mode_tick m.processor now).trans hmode
    -- what decides about the refusal is left by the first step but for the timers
    refine refused_again hn now hnmode ?_
    rw [Machine.state, hprocessor]
    exact (Processor.refuses_tick now hm.sound).2 hr
  · rintro pc rfl
    rcases (Processor.step_fails_iff now hm.sound hmode).1 he with hr | ⟨hno, _, hr, ⟨⟩⟩
    · cases hr
    · obtain ⟨w, t, hf, hx, rfl, ho⟩ := Processor.step_of_runsOff now hm.sound hmode hno hr
      obtain ⟨_, _, _, hlt⟩ := (Processor.runsOff_iff hm.sound).1 hr
      rw [ho] at hprocessor
      have hran : RanOff now m n w t := ⟨hf, hx, hlt, hprocessor, hmode⟩
      refine ⟨w, hf, hran.fetch_again, ?_⟩
      intro hf'
      exact ⟨hran.ret_again hm hn hf', fun _ => hran.block_again hn hf', hran.failsAgain hm hn hf',
        hran.agrees_again hm hn hf'⟩

/-- The word behind which there is no other fails again, and again changes nothing. -/
theorem retry_at_last_word :
    let n := (atLastWord.forceStep 1).after
    let r := n.start.step 1
    Reachable {} atLastWord ∧ (atLastWord.forceStep 1).answer = .error (.pastEndOfMemory 0x1000) ∧
      FailsAgain (.pastEndOfMemory 0x1000) n r ∧ n.state.Agrees r.after.state := by
  intro n r
  have he : (atLastWord.forceStep 1).answer = .error (.pastEndOfMemory 0x1000) :=
    (answer_forceStep_eq_error_iff reachable_atLastWord running_atLastWord.1 1).2 failing_atLastWord
  obtain ⟨w, hf, hsame, hagain⟩ := (retry_of_failure reachable_atLastWord he).2.2 _ rfl
  cases hf.symm.trans fetch_atLastWord
  rw [decode_zero] at hsame hagain
  obtain ⟨_, _, hfails, hagrees⟩ := hagain (hsame rfl)
  exact ⟨reachable_atLastWord, he, (hfails nofun nofun).1, hagrees rfl nofun⟩

/-- A return to the address behind the memory fails. -/
theorem failing_of_ret {c : Config} {m : Machine τ} (hm : Reachable c m) {w : Word}
    (hf : m.state.fetch = .ok w) (hw : Instruction.decode w = .ret)
    (htop : m.state.stack.toList.getLast? = some 0x1000) :
    m.state.Failing c.stackDepth (.pastEndOfMemory 0x1000) := by
  have hnone : (Instruction.decode w).fault? m.state = none := by
    rw [hw]
    rfl
  exact .inr ⟨Processor.not_refuses_of_fault? hm.sound hf hnone, 0x1000, .ret hf hw htop, rfl⟩

/-- **A failure need not be repeated.** The program stores a call at the last word and jumps there.
The call remembers the address behind the memory, and goes to a return, which fails. The next step
finds the stack empty, and goes on at the address zero. -/
theorem retry_of_ret_succeeds :
    let m := (Config.machine {} (.ofSeed 0) 1 0 : Machine Nat).acts
      [.loadProgram [0x60, 0x22, 0x61, 0x0A, 0xAF, 0xFE, 0xF1, 0x55, 0x1F, 0xFE, 0x00, 0xEE],
        .start, .run (fun _ => 0) 6]
    let n := (m.step 0).after
    Reachable {} m ∧ (m.step 0).answer = .error (.pastEndOfMemory 0x1000) ∧
      ∃ s, (n.start.step 0).answer = .ok (some s) ∧ s.registers.pc = 0 := by
  intro m n
  have hm : Reachable {} m := (Reachable.built _ _ _).acts _
  obtain ⟨hmode, hrun, hpc, hhigh, hlow, htop, hretry⟩ :
      m.processor.mode = .running ∧ m.isRunning = true ∧ m.state.pc = 0x20A ∧
        m.state.memory.bytes[0x20A] = 0x00 ∧ m.state.memory.bytes[0x20B] = 0xEE ∧
        m.state.stack.toList.getLast? = some 0x1000 ∧
        ((n.start.step 0).answer.toOption.join.map fun s => s.registers.pc) = some 0 := by
    decide +kernel
  have hf : m.state.fetch = .ok 0x00EE :=
    State.fetch_of_bytes m.state 0x20A 0x20B 0x00 0xEE hpc rfl hhigh hlow
  have hw : Instruction.decode 0x00EE = .ret := by decide +kernel
  refine ⟨hm, ?_, ?_⟩
  · exact (answer_step_eq_error_iff hm hmode hrun 0).2 (failing_of_ret hm hf hw htop)
  · cases ha : (n.start.step 0).answer with
    | error e =>
        rw [ha] at hretry
        cases hretry
    | ok o =>
        rw [ha] at hretry
        cases o with
        | none => cases hretry
        | some s => exact ⟨s, rfl, Option.some.inj hretry⟩

end Machine

end Chip8
