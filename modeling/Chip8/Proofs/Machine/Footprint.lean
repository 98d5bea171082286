import Chip8.Proofs.Instruction.Footprint
import Chip8.Proofs.Machine.Sound

set_option autoImplicit false

/-! # The footprint of a step

A step that does not fail executes one word, and beside the tick of the timers it changes only what
the form of that word allows (`step_footprint`). A word that is no instruction changes nothing but
the program counter and the count.
-/

namespace Chip8

namespace Processor

variable {τ : Type} {p : Processor τ} {o : Outcome (Processor τ) Snapshot}

/-- A step that does not fail executes a word, if the processor does not wait. -/
theorem executes_of_proceeds_ok (hm : p.mode = .running) (ho : Proceeds p o) {r : Snapshot}
    (hr : o.answer = .ok r) :
    ∃ w t, p.state.fetch = .ok w ∧ (Instruction.decode w).execute p.state.advance = .ok t ∧
      r.word = some w ∧ o.after = p.executed w t := by
  cases ho with
  | waits hx => cases hm.symm.trans hx
  | unfetched _ hf => cases hr
  | refused _ hf he => cases hr
  | overrun _ hf he hpc => cases hr
  | @executes w t _ hf he hpc =>
      cases hr
      exact ⟨w, t, hf, he, rfl, rfl⟩

/-- A processor that begins to wait has executed a wait for a key. -/
theorem mode_executed_of_not_isOneOf {maxDepth : Nat} (h : p.Sound maxDepth)
    (hm : p.mode = .running) {w : Word} {t : State}
    (he : (Instruction.decode w).execute p.state.advance = .ok t)
    (hno : ¬ (Instruction.decode w).IsOneOf ["Fx0A"]) : (p.executed w t).mode = .running := by
  have hkeypad : t.keypad = p.state.keypad := by
    rw [(Instruction.effect_of_execute he).keypad, Instruction.nextKeypad_of_not_isOneOf _ hno]
  have hidle : t.keypad.isAwaiting = false := by
    rw [hkeypad]
    exact h.latch.1 hm
  show (if t.keypad.isAwaiting then .awaitingKey w.x else p.mode) = Mode.running
  rw [hidle, if_neg Bool.false_ne_true, hm]

end Processor

namespace Machine

open Instruction (forms)

variable {τ : Type} [Sub τ] [LT τ] [DecidableLT τ]

/-- What a step leaves of a machine that has executed the word `w` in it; `q` is the processor
when the timers have ticked. -/
structure Footprint (w : Word) (q : Processor τ) (m n : Machine τ) : Prop where
  state : w.Footprint q.state n.state
  mode : n.processor.mode ≠ m.processor.mode → w.IsOneOf ["Fx0A"]
  count : n.processor.count = m.processor.count + 1
  period : n.processor.period = m.processor.period
  lastTick : n.processor.lastTick = q.lastTick
  phase : n.phase = m.phase
  /-- A word that is no instruction is passed over. -/
  unknown : ¬ w.IsOneOf forms →
    n.processor = { q with state := q.state.advance, count := m.processor.count + 1 }

/-- **The footprint of a step.** Let a reachable machine not wait for a key, and let a step of it
not fail. The tick before the instruction changes nothing but the timers. The step then executes the
word at the program counter, and changes nothing but what the form of this word allows. -/
theorem step_footprint {c : Config} {m : Machine τ} (hm : Reachable c m)
    (hmode : m.processor.mode = .running) (now : τ) {r : Snapshot}
    (hr : (m.forceStep now).answer = .ok r) :
    let q := m.processor.tick now
    (q.state = m.state ∨ q.state = m.state.tickTimers) ∧
    (m.isRunning = true → (m.step now).answer = .ok (some r) ∧
      (m.step now).after = (m.forceStep now).after) ∧
    ∃ w, m.state.fetch = .ok w ∧ r.word = some w ∧ Footprint w q m (m.forceStep now).after := by
  intro q
  have hq : q.mode = .running := (m.processor.mode_tick now).trans hmode
  have hstep : (m.processor.step now).answer = .ok r := by
    rw [← answer_forceStep]
    exact hr
  obtain ⟨w, t, hf, he, hword, hafter⟩ :=
    Processor.executes_of_proceeds_ok hq (Processor.proceeds q) hstep
  have hafter' : (m.processor.step now).after = q.executed w t := hafter
  have hw := State.bounds_of_fetch hf
  have hfetch : m.state.fetch = .ok w := (m.processor.fetch_tick now).symm.trans hf
  refine ⟨m.processor.state_tick now, ?_, w, hfetch, hword, ?_⟩
  · intro hrun
    rw [m.step_of_isRunning now hrun, Outcome.map, hr]
    exact ⟨rfl, rfl⟩
  · rw [m.forceStep_of_ok now hstep, hafter']
    refine ⟨Word.footprint_of_execute hw he, ?_, ?_, ?_, rfl, rfl, ?_⟩
    · -- only a wait for a key changes the mode
      intro hchange
      refine (Instruction.isOneOf_iff hw (by decide)).2 ?_
      by_contra hno
      have hrunning := Processor.mode_executed_of_not_isOneOf (hm.sound.tick now) hq he hno
      exact hchange (hrunning.trans hmode.symm)
    · exact congrArg (· + 1) (m.processor.count_tick now)
    · exact m.processor.period_tick now
    · intro hnone
      have ht := Word.execute_of_isOneOf_none hw hnone he
      subst ht
      have hno : ¬ (Instruction.decode w).IsOneOf ["Fx0A"] := by
        rw [(Instruction.decode_eq_unknown_iff hw).2 hnone]
        rintro ⟨f, _, hform⟩
        cases hform
      have hrunning := Processor.mode_executed_of_not_isOneOf (hm.sound.tick now) hq he hno
      show { q with
          state := q.state.advance
          count := q.count + 1
          mode := (q.executed w q.state.advance).mode } = { q with
          state := q.state.advance
          count := m.processor.count + 1 }
      rw [hrunning, ← hq, m.processor.count_tick now]

/-- The program stores `V0` and `V1` at `0x300`, in a step whose tick is due. -/
theorem step_footprint_of_store :
    let m := (Config.machine {} (.ofSeed 0) 1 0 : Machine Nat).acts
      [.loadProgram [0x61, 0x07, 0xA3, 0x00, 0xF1, 0x55], .start, .step 0, .step 0]
    Reachable {} m ∧ m.processor.mode = .running ∧ ∃ r, (m.forceStep 5).answer = .ok r ∧
      r.word = some 0xF155 ∧ (m.step 5).after = (m.forceStep 5).after ∧
      Footprint 0xF155 (m.processor.tick 5) m (m.forceStep 5).after := by
  intro m
  have hm : Reachable {} m := (Reachable.built _ _ _).acts _
  obtain ⟨hmode, hrun, hpc, hhigh, hlow⟩ : m.processor.mode = .running ∧ m.isRunning = true ∧
      m.state.pc = 0x204 ∧ m.state.memory.bytes[(0x204 : Fin 4096)] = 0xF1 ∧
      m.state.memory.bytes[(0x205 : Fin 4096)] = 0x55 := by decide +kernel
  have hf : m.state.fetch = .ok 0xF155 :=
    State.fetch_of_bytes m.state 0x204 0x205 0xF1 0x55 hpc rfl hhigh hlow
  have hok : (m.forceStep 5).answer.isOk = true := by decide +kernel
  obtain ⟨r, hr⟩ : ∃ r, (m.forceStep 5).answer = .ok r := by
    cases ha : (m.forceStep 5).answer with
    | ok r => exact ⟨r, rfl⟩
    | error e =>
        rw [ha] at hok
        cases hok
  obtain ⟨_, hstep, w, hw, hword, hfootprint⟩ := step_footprint hm hmode 5 hr
  cases hf.symm.trans hw
  exact ⟨hm, hmode, r, hr, hword, (hstep hrun).2, hfootprint⟩

end Machine

end Chip8
