import Chip8.Proofs.Machine.Failure
import Chip8.Proofs.Machine.Run

set_option autoImplicit false

/-! # Only fatal faults leave a step

Whatever its memory holds, a reachable machine takes a step, or a run of steps, in one of two ways.
It passes (`Passes`): it gives an answer, its phase stays, and no error is logged. Or it halts
(`Halts`): the fault is an access behind the memory, a program counter that leaves it, or a call on
a full stack, and the one error in the log names the instruction that has failed. There is no third
way (`steps_pass_or_halt`).
-/

namespace Chip8

theorem Fault.isFatal_iff {e : Fault} :
    e.isFatal = true ↔ (∃ a, e = .addressOutOfBounds a) ∨ (∃ pc, e = .pastEndOfMemory pc) ∨
      ∃ depth, e = .stackOverflow depth := by
  cases e <;> simp [isFatal]

/-! ## Errors in a log -/

/-- The errors among the records of a log. -/
def errors (log : Array Record) : List Record := log.toList.filter (·.level == .error)

@[simp] theorem errors_append (log log' : Array Record) :
    errors (log ++ log') = errors log ++ errors log' := by
  simp [errors]

theorem errors_push_halted (log : Array Record) (pc : Int) (e : Fault) :
    errors (log.push (.halted pc e)) = errors log ++ [.halted pc e] := by
  simp [errors, Record.level]

/-- To ignore a word is no error. -/
theorem errors_records (w : Word) : errors w.records = [] := by
  unfold Word.records
  split <;> rfl

namespace Processor

variable {τ : Type} {p : Processor τ} {o : Outcome (Processor τ) Snapshot}

theorem errors_of_proceeds (ho : Proceeds p o) : errors o.log = [] := by
  cases ho with
  | waits hx => rfl
  | unfetched hm hf => rfl
  | refused hm hf he => exact errors_records _
  | overrun hm hf he hpc => exact errors_records _
  | executes hm hf he hpc => exact errors_records _

/-- A step that fails leaves the program counter at the instruction. -/
theorem pc_of_proceeds_error (ho : Proceeds p o) {e : Fault} (he : o.answer = .error e) :
    o.after.state.pc = p.state.pc := by
  cases ho with
  | waits hx => cases he
  | executes hm hf hx hpc => cases he
  | unfetched hm hf => rfl
  | refused hm hf hx => rfl
  | overrun hm hf hx hpc => rfl

end Processor

namespace Machine

variable {τ α : Type}

/-- An outcome of the machine `m` that gives an answer, leaves its phase and logs no error. -/
structure Passes (m : Machine τ) (o : Outcome (Machine τ) α) : Prop where
  answer : ∃ a, o.answer = .ok a
  phase : o.after.phase = m.phase
  errors : errors o.log = []

/-- An outcome with a fatal fault of a step of the machine `m`, which halts it and logs one error.
-/
structure Halts (e : Fault) (m : Machine τ) (o : Outcome (Machine τ) α) : Prop where
  answer : o.answer = .error e
  fault : (∃ a, e = .addressOutOfBounds a) ∨ (∃ pc, e = .pastEndOfMemory pc) ∨
    ∃ depth, e = .stackOverflow depth
  phase : o.after.phase = .halted
  errors : errors o.log = [.halted m.state.pc e]

theorem Passes.map {β : Type} {m : Machine τ} {o : Outcome (Machine τ) α} (h : Passes m o)
    (f : α → β) : Passes m (o.map id f) := by
  obtain ⟨a, ha⟩ := h.answer
  exact ⟨⟨f a, by rw [Outcome.map, ha]; rfl⟩, h.phase, h.errors⟩

theorem Halts.map {β : Type} {e : Fault} {m : Machine τ} {o : Outcome (Machine τ) α}
    (h : Halts e m o) (f : α → β) : Halts e m (o.map id f) :=
  ⟨by rw [Outcome.map, h.answer]; rfl, h.fault, h.phase, h.errors⟩

variable [Sub τ] [LT τ] [DecidableLT τ] {c : Config} {m : Machine τ}

/-- A step passes or halts, whether or not the machine runs. -/
theorem forceStep_passes_or_halts (hm : Reachable c m) (now : τ) :
    Passes m (m.forceStep now) ∨ ∃ e, Halts e m (m.forceStep now) := by
  have hproceeds := Processor.proceeds (m.processor.tick now)
  cases ho : (m.processor.step now).answer with
  | ok s =>
      have hforce : m.forceStep now =
          { answer := .ok s
            after := { m with processor := (m.processor.step now).after }
            log := (m.processor.step now).log } := by
        simp only [forceStep, ho]
      rw [hforce]
      exact .inl ⟨⟨s, rfl⟩, rfl, Processor.errors_of_proceeds hproceeds⟩
  | error e =>
      have hfatal := isFatal_of_step hm ho
      have hpc : (m.processor.step now).after.state.pc = m.state.pc :=
        (Processor.pc_of_proceeds_error hproceeds ho).trans (Processor.pc_tick m.processor now)
      rw [forceStep_of_fatal ho hfatal]
      refine .inr ⟨e, rfl, Fault.isFatal_iff.1 hfatal, rfl, ?_⟩
      show errors ((m.processor.step now).log.push _) = _
      rw [errors_push_halted, hpc, Processor.step, Processor.errors_of_proceeds hproceeds]
      rfl

theorem step_passes_or_halts (hm : Reachable c m) (now : τ) :
    Passes m (m.step now) ∨ ∃ e, Halts e m (m.step now) := by
  by_cases hrun : m.isRunning = true
  · rw [step_of_isRunning m now hrun]
    rcases forceStep_passes_or_halts hm now with h | ⟨e, h⟩
    · exact .inl (h.map some)
    · exact .inr ⟨e, h.map some⟩
  · rw [step, if_neg hrun]
    exact .inl ⟨⟨none, rfl⟩, rfl, rfl⟩

/-- A run passes, or one of its steps halts after all before it have passed. -/
theorem run_passes_or_halts (hm : Reachable c m) (clock : Nat → τ) (count : Nat) :
    Passes m (m.run clock count) ∨
      ∃ k e, k < count ∧ Passes m (m.run clock k) ∧
        Halts e (m.run clock k).after ((m.run clock k).after.step (clock k)) ∧
        Halts e (m.run clock k).after (m.run clock count) := by
  -- the run gets one more step at its end
  induction count with
  | zero => exact .inl ⟨⟨none, rfl⟩, rfl, rfl⟩
  | succ count ih =>
      rcases ih with hpass | ⟨k, e, hk, hpass, hstep, hhalt⟩
      · obtain ⟨last, hlast⟩ := hpass.answer
        cases hrun : (m.run clock count).after.isRunning with
        | false =>
            rw [run_succ_of_not_running hrun]
            exact .inl hpass
        | true =>
            have hn : Reachable c (m.run clock count).after := hm.act (.run clock count)
            rw [run_succ_of_running hlast hrun]
            rcases step_passes_or_halts hn (clock count) with hs | ⟨e, hs⟩
            · refine .inl ⟨hs.answer, hs.phase.trans hpass.phase, ?_⟩
              rw [errors_append, hpass.errors, hs.errors]
              rfl
            · refine .inr ⟨count, e, Nat.lt_succ_self count, hpass, hs, hs.answer, hs.fault,
                hs.phase, ?_⟩
              rw [errors_append, hpass.errors, hs.errors]
              rfl
      · rw [run_succ_of_error hhalt.answer]
        exact .inr ⟨k, e, Nat.lt_succ_of_lt hk, hpass, hstep, hhalt⟩

/-- **Nothing but the fatal faults.** A step of a reachable machine, forced or not, passes or halts,
and a run passes or halts at the first of its steps that does. A fault other than the fatal ones
never leaves them. -/
theorem steps_pass_or_halt {c : Config} {m : Machine τ} (hm : Reachable c m) :
    (∀ now, Passes m (m.step now) ∨ ∃ e, Halts e m (m.step now)) ∧
    (∀ now, Passes m (m.forceStep now) ∨ ∃ e, Halts e m (m.forceStep now)) ∧
    ∀ clock count, Passes m (m.run clock count) ∨
      ∃ k e, k < count ∧ Passes m (m.run clock k) ∧
        Halts e (m.run clock k).after ((m.run clock k).after.step (clock k)) ∧
        Halts e (m.run clock k).after (m.run clock count) :=
  ⟨step_passes_or_halts hm, forceStep_passes_or_halts hm, run_passes_or_halts hm⟩

/-- A run of ten steps over a program that jumps to the last word of the memory halts there. -/
theorem run_halts_at_last_word :
    let m := (Config.machine {} (.ofSeed 0) 1 0 : Machine Nat).acts
      [.loadProgram [0x1F, 0xFE], .start]
    Reachable {} m ∧
      ∃ k e, k < 10 ∧ Halts e (m.run (fun _ => 0) k).after (m.run (fun _ => 0) 10) := by
  intro m
  have hm : Reachable {} m := (Reachable.built _ _ _).acts _
  have hfails : (m.run (fun _ => 0) 10).answer.toOption = none := by decide +kernel
  refine ⟨hm, ?_⟩
  rcases (steps_pass_or_halt hm).2.2 (fun _ => 0) 10 with hpass | ⟨k, e, hk, _, _, hhalt⟩
  · obtain ⟨a, ha⟩ := hpass.answer
    rw [ha] at hfails
    cases hfails
  · exact ⟨k, e, hk, hhalt⟩

end Machine

end Chip8
