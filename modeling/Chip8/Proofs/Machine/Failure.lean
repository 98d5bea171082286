import Chip8.Proofs.Machine.Sound
import Chip8.Proofs.Processor.Failure

set_option autoImplicit false

/-! # Steps that fail

The main statement (`forceStep_fails_iff`) gives the conditions under which a step of a reachable
machine fails, and all that is left by a step which does. The machine halts with its program counter
at the instruction. An instruction that was refused has changed nothing, and one that has run off
the memory has changed all that it changes.
-/

namespace Chip8

namespace Machine

variable {τ : Type} [Sub τ] [LT τ] [DecidableLT τ]

/-- A step that fails with a fatal fault halts the machine, and says so. -/
theorem forceStep_of_fatal {m : Machine τ} {now : τ} {e : Fault}
    (he : (m.processor.step now).answer = .error e) (hfatal : e.isFatal = true) :
    m.forceStep now =
      { answer := .error e
        after := { processor := (m.processor.step now).after, phase := .halted }
        log := (m.processor.step now).log.push
          (.halted (m.processor.step now).after.state.pc e) } := by
  simp only [forceStep, he, hfatal, if_true]

theorem answer_map_eq_error_iff {σ τ α β : Type} {o : Outcome σ α} {f : σ → τ} {g : α → β}
    {e : Fault} : (o.map f g).answer = .error e ↔ o.answer = .error e := map_eq_error_iff

theorem answer_forceStep_eq_error_iff {c : Config} {m : Machine τ} (hm : Reachable c m)
    (hmode : m.processor.mode = .running) (now : τ) {e : Fault} :
    (m.forceStep now).answer = .error e ↔ m.state.Failing c.stackDepth e := by
  rw [answer_forceStep]
  exact Processor.step_fails_iff now hm.sound hmode

theorem answer_step_eq_error_iff {c : Config} {m : Machine τ} (hm : Reachable c m)
    (hmode : m.processor.mode = .running) (hrun : m.isRunning = true) (now : τ) {e : Fault} :
    (m.step now).answer = .error e ↔ m.state.Failing c.stackDepth e := by
  rw [step_of_isRunning m now hrun]
  exact answer_map_eq_error_iff.trans (answer_forceStep_eq_error_iff hm hmode now)

/-- **The failures of a step.** A step of a reachable machine that does not wait for a key fails
exactly in the listed cases. It then halts the machine and leaves the program counter, the mode and
the count as they were. If it was refused, the timers alone may have changed. If it has run off the
memory, the state is that of the executed instruction but for the program counter. -/
theorem forceStep_fails_iff {c : Config} {m : Machine τ} (hm : Reachable c m)
    (hmode : m.processor.mode = .running) (now : τ) (e : Fault) :
    ((m.forceStep now).answer = .error e ↔ m.state.Failing c.stackDepth e) ∧
    (m.isRunning = true → ((m.step now).answer = .error e ↔ m.state.Failing c.stackDepth e) ∧
      (m.step now).after = (m.forceStep now).after) ∧
    (m.state.Failing c.stackDepth e →
      let n := (m.forceStep now).after
      n.phase = .halted ∧ n.state.pc = m.state.pc ∧ n.processor.mode = .running ∧
      n.processor.count = m.processor.count ∧
      (m.forceStep now).log = (m.processor.step now).log.push (.halted m.state.pc e) ∧
      (m.state.Refuses c.stackDepth e →
        n.processor = m.processor.tick now ∧
          (n.state = m.state ∨ n.state = m.state.tickTimers)) ∧
      (∀ pc, e = .pastEndOfMemory pc → ∃ w t, m.state.fetch = .ok w ∧
        (Instruction.decode w).execute (m.processor.tick now).state.advance = .ok t ∧ t.pc = pc ∧
        n.processor = { m.processor.tick now with state := t.setPc m.state.pc })) := by
  refine ⟨answer_forceStep_eq_error_iff hm hmode now, ?_, ?_⟩
  · intro hrun
    refine ⟨answer_step_eq_error_iff hm hmode hrun now, ?_⟩
    rw [step_of_isRunning m now hrun]
    rfl
  · intro hfailing
    have he := (Processor.step_fails_iff now hm.sound hmode).2 hfailing
    have hforce := forceStep_of_fatal he (isFatal_of_step hm he)
    have hpc : (m.processor.tick now).state.pc = m.state.pc := Processor.pc_tick _ now
    have hrunning := (Processor.mode_tick m.processor now).trans hmode
    have hcount := Processor.count_tick m.processor now
    -- the two kinds of failure leave different states, and exclude each other
    rcases hfailing with hr | ⟨hno, pc, hr, rfl⟩
    · obtain ⟨log, ho⟩ := Processor.step_of_refuses now hm.sound hmode hr
      rw [hforce, ho]
      refine ⟨rfl, hpc, hrunning, hcount, by rw [hpc], ?_, ?_⟩
      · intro _
        exact ⟨rfl, m.processor.state_tick now⟩
      · rintro pc rfl
        cases hr
    · obtain ⟨w, t, hf, hx, ht, ho⟩ := Processor.step_of_runsOff now hm.sound hmode hno hr
      rw [hforce, ho]
      refine ⟨rfl, rfl, hrunning, hcount, rfl, ?_, ?_⟩
      · intro hr
        exact absurd hr (hno _)
      · rintro _ ⟨⟩
        exact ⟨w, t, hf, hx, ht, rfl⟩

/-- A machine that has jumped to the last word of the memory, which is no instruction. -/
def atLastWord : Machine Nat :=
  (Config.machine {} (.ofSeed 0) 1 0).acts [.loadProgram [0x1F, 0xFE], .start, .step 0]

theorem reachable_atLastWord : Reachable {} atLastWord := (Reachable.built _ _ _).acts _

theorem running_atLastWord :
    atLastWord.processor.mode = .running ∧ atLastWord.isRunning = true ∧
      atLastWord.state.pc = 0xFFE ∧ atLastWord.state.memory.bytes[(0xFFE : Fin 4096)] = 0x00 ∧
      atLastWord.state.memory.bytes[(0xFFF : Fin 4096)] = 0x00 := by decide +kernel

theorem pc_atLastWord : atLastWord.state.pc = 0xFFE := running_atLastWord.2.2.1

theorem fetch_atLastWord : atLastWord.state.fetch = .ok 0x0000 :=
  State.fetch_of_bytes atLastWord.state 0xFFE 0xFFF 0x00 0x00 pc_atLastWord rfl
    running_atLastWord.2.2.2.1 running_atLastWord.2.2.2.2

theorem decode_zero : Instruction.decode 0x0000 = .unknown 0x0000 := by decide +kernel

/-- There is no word behind the last one. -/
theorem failing_atLastWord : atLastWord.state.Failing 16 (.pastEndOfMemory 0x1000) := by
  have hnone : (Instruction.decode 0x0000).fault? atLastWord.state = none := by
    rw [decode_zero]
    rfl
  refine .inr ⟨Processor.not_refuses_of_fault? reachable_atLastWord.sound fetch_atLastWord hnone,
    0x1000, ?_, rfl⟩
  have hnext := State.RunsOff.next fetch_atLastWord (by rw [decode_zero]; rfl)
    (by rw [decode_zero]; rfl) (by rw [pc_atLastWord]; decide)
  rwa [pc_atLastWord] at hnext

/-- The machine halts at the last word. -/
theorem forceStep_fails_at_last_word :
    Reachable {} atLastWord ∧ atLastWord.processor.mode = .running ∧
      (atLastWord.step 1).answer = .error (.pastEndOfMemory 0x1000) ∧
      (atLastWord.step 1).after.phase = .halted ∧
      (atLastWord.step 1).after.state.pc = 0xFFE := by
  obtain ⟨hmode, hrun, hpc, _⟩ := running_atLastWord
  have hfails := forceStep_fails_iff reachable_atLastWord hmode 1 (.pastEndOfMemory 0x1000)
  have hstep := hfails.2.1 hrun
  have hafter := hfails.2.2 failing_atLastWord
  refine ⟨reachable_atLastWord, hmode, hstep.1.2 failing_atLastWord, ?_, ?_⟩
  · rw [hstep.2]
    exact hafter.1
  · rw [hstep.2]
    exact hafter.2.1.trans hpc

end Machine

end Chip8
