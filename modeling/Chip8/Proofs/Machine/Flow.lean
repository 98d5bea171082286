import Chip8.Proofs.Instruction.Flow
import Chip8.Proofs.Machine.Event
import Chip8.Proofs.Processor.Failure

set_option autoImplicit false

/-! # Where a step leads to

The program counter moves on before an instruction is executed, may be set or moved again by the
instruction, and is only then compared with the end of the memory. A step that passes this check
leads where the word at the program counter leads to (`step_leads_to`). So a program that goes on or
skips never comes from the end of the memory to its beginning.
-/

namespace Chip8

namespace Processor

variable {τ : Type} {p : Processor τ} {o : Outcome (Processor τ) Snapshot}

/-- A step that does not fail goes on where its word leads to, and that is in the memory. -/
theorem leadsTo_of_proceeds_ok (hm : p.mode = .running) (ho : Proceeds p o) {r : Snapshot}
    (hr : o.answer = .ok r) :
    ∃ w, p.state.fetch = .ok w ∧ w.LeadsTo p.state o.after.state.pc ∧ o.after.state.pc ≤ 0xFFF := by
  cases ho with
  | waits hx => cases hm.symm.trans hx
  | unfetched _ hf => cases hr
  | refused _ hf he => cases hr
  | overrun _ hf he hpc => cases hr
  | @executes w t _ hf he hpc =>
      have hnext : t.pc = (Instruction.decode w).nextPc p.state :=
        (Instruction.effect_of_execute he).pc (State.exists_fetch_iff.1 ⟨w, hf⟩)
      have hleads := Word.leadsTo_nextPc (State.bounds_of_fetch hf) p.state
      rw [← hnext] at hleads
      exact ⟨w, hf, hleads, hpc⟩

end Processor

namespace Word

variable {w : Word} {s t : State} {pc : Int}

/-- Where a word leads to does not depend on the timers. -/
theorem LeadsTo.congr (h : w.LeadsTo s pc) (hregisters : t.registers = s.registers)
    (hstack : t.stack = s.stack) (hkeypad : t.keypad = s.keypad) : w.LeadsTo t pc := by
  have hget : ∀ x, t.get x = s.get x := by
    intro x
    rw [State.get, hregisters, State.get]
  have hpc : t.pc = s.pc := by rw [State.pc, hregisters, State.pc]
  have hskips : w.Skips t ↔ w.Skips s := by
    unfold Skips
    simp only [hget, hkeypad]
  refine ⟨h.jump, ?_, ?_, ?_, ?_, ?_⟩
  · rw [hget]
    exact h.offset
  · rw [hstack]
    exact h.ret
  · rw [hpc]
    exact h.wait
  · rw [hskips, hpc]
    exact h.skip
  · rw [hskips, hpc]
    exact h.next

/-- Only the words with a target lead back. -/
theorem LeadsTo.le (h : w.LeadsTo s pc) (hw : ¬ w.IsOneOf ["00EE", "1nnn", "2nnn", "Bnnn"]) :
    s.pc ≤ pc := by
  -- such a word waits where it is, skips the next one or leads to it
  by_cases hwait : w.IsOneOf ["Fx0A"]
  · rw [h.wait hwait]
  · by_cases hskips : w.Skips s
    · rw [h.skip hskips]
      omega
    · have hno : ¬ w.IsOneOf transfers := by
        rintro ⟨f, hf, hfits⟩
        have hsplit : f ∈ ["00EE", "1nnn", "2nnn", "Bnnn"] ∨ f ∈ ["Fx0A"] :=
          List.mem_append.1 hf
        rcases hsplit with hback | hkey
        · exact hw ⟨f, hback, hfits⟩
        · exact hwait ⟨f, hkey, hfits⟩
      rw [h.next hno hskips]
      omega

end Word

namespace Machine

variable {τ : Type} [Sub τ] [LT τ] [DecidableLT τ]

/-- **Where a step leads to.** A machine that does not wait for a key takes a step without a fault.
Then there is a word at the program counter, and the step leads where this word leads to, which is
an address of the memory. It does not lead back, unless the word is a jump, a call or a return. The
step that is taken only if the machine runs is then the same. -/
theorem step_leads_to {m : Machine τ} (hmode : m.processor.mode = .running) (now : τ)
    {r : Snapshot} (hr : (m.forceStep now).answer = .ok r) :
    let n := (m.forceStep now).after
    (m.isRunning = true → (m.step now).answer = .ok (some r) ∧ (m.step now).after = n) ∧
    ∃ w, m.state.fetch = .ok w ∧ w.LeadsTo m.state n.state.pc ∧ n.state.pc ≤ 0xFFF ∧
      (¬ w.IsOneOf ["00EE", "1nnn", "2nnn", "Bnnn"] → m.state.pc ≤ n.state.pc) := by
  intro n
  have hq : (m.processor.tick now).mode = .running := (m.processor.mode_tick now).trans hmode
  have hstep : (m.processor.step now).answer = .ok r := by
    rw [← answer_forceStep]
    exact hr
  have hafter : n.state = (m.processor.step now).after.state :=
    congrArg Processor.state (m.processor_forceStep now)
  obtain ⟨w, hf, hleads, hpc⟩ :=
    Processor.leadsTo_of_proceeds_ok hq (Processor.proceeds _) hstep
  -- the tick before the instruction has changed nothing that the flow depends on
  have hleads' : w.LeadsTo m.state n.state.pc := by
    rw [hafter]
    exact hleads.congr (m.processor.registers_tick now).symm (m.processor.stack_tick now).symm
      (m.processor.keypad_tick now).symm
  refine ⟨?_, w, (m.processor.fetch_tick now).symm.trans hf, hleads', ?_, hleads'.le⟩
  · intro hrun
    rw [m.step_of_isRunning now hrun, Outcome.map, hr]
    exact ⟨rfl, rfl⟩
  · rw [hafter]
    exact hpc

/-- An offset jump behind the last address leads to the first one. -/
theorem step_leads_to_beginning :
    let m := (Config.machine {} (.ofSeed 0) 1 0 : Machine Nat).acts
      [.loadProgram [0x60, 0x01, 0xBF, 0xFF], .start, .step 0]
    m.processor.mode = .running ∧ m.state.pc = 0x202 ∧ m.state.fetch = .ok 0xBFFF ∧
      (∃ r, (m.forceStep 0).answer = .ok r) ∧ (m.forceStep 0).after.state.pc = 0x000 := by
  intro m
  obtain ⟨hmode, hpc, hv, hhigh, hlow, hok⟩ : m.processor.mode = .running ∧ m.state.pc = 0x202 ∧
      m.state.get 0 = 0x01 ∧ m.state.memory.bytes[(0x202 : Fin 4096)] = 0xBF ∧
      m.state.memory.bytes[(0x203 : Fin 4096)] = 0xFF ∧
      (m.forceStep 0).answer.isOk = true := by decide +kernel
  have hf : m.state.fetch = .ok 0xBFFF :=
    State.fetch_of_bytes m.state 0x202 0x203 0xBF 0xFF hpc rfl hhigh hlow
  obtain ⟨r, hr⟩ := exists_eq_ok_of_isOk hok
  obtain ⟨_, w, hw, hleads, _⟩ := step_leads_to hmode 0 hr
  cases hf.symm.trans hw
  refine ⟨hmode, hpc, hf, ⟨r, hr⟩, ?_⟩
  rw [hleads.offset (by decide), hv]
  rfl

end Machine

end Chip8
