import Chip8.Proofs.Instruction.Matching
import Chip8.Proofs.Machine.Sound

set_option autoImplicit false

/-! # The instructions that a machine executes

A step of a machine that does not wait executes the instruction at the program counter (`next?`),
if it does not fail. In the course of a list of events a machine so executes a sequence of
instructions (`executions`), each at its address.

As long as nothing interrupts a machine (`interrupts`), that is, there is no reset and no step
fails, its call stack is what these instructions make of it, one after the other
(`toList_stack_after`).
-/

namespace Chip8

/-- An instruction that does not overflow the stack does to it what belongs to its kind. -/
theorem Instruction.toList_nextStack {i : Instruction} {s : State} (hpc : 0 ≤ s.pc ∧ s.pc ≤ 0xFFE) :
    (i.nextStack s).toList = Execution.transfer s.stack.toList ⟨s.pc, i⟩ := by
  cases i with
  | ret => exact CallStack.toList_pop s.stack
  | call nnn =>
      show (s.stack.entries.push (CallStack.clampWord (s.pc + 2))).toList = _
      rw [CallStack.clampWord_of_mem (by omega), Array.toList_push]
      rfl
  | _ => rfl

theorem Processor.stack_resolve {τ : Type} (p : Processor τ) :
    p.resolve.2.state.stack = p.state.stack := by
  rcases p.resolve_cases with h | ⟨x, key, _, _, h⟩ <;> rw [h]
  rfl

namespace Machine

variable {τ : Type}

/-- The instruction that the next step executes. A machine that waits for a key has none, nor has
one whose program counter stands behind the last word. -/
def next? (m : Machine τ) : Option Instruction :=
  match m.processor.mode with
  | .awaitingKey _ => none
  | .running => m.state.fetch.toOption.map Instruction.decode

theorem next?_eq_some_iff {m : Machine τ} {i : Instruction} :
    m.next? = some i ↔
      m.processor.mode = .running ∧ ∃ w, m.state.fetch = .ok w ∧ Instruction.decode w = i := by
  unfold next?
  cases m.processor.mode with
  | awaitingKey x => simp
  | running => cases m.state.fetch <;> simp [Except.toOption]

theorem stack_setKey (m : Machine τ) (key : Key) (pressed : Bool) :
    (m.setKey key pressed).state.stack = m.state.stack := by
  show (m.processor.setKey key pressed m.isRunning).state.stack = _
  unfold Processor.setKey
  split
  · exact Processor.stack_resolve _
  · rfl

variable [Sub τ] [LT τ] [DecidableLT τ]

/-- The instruction that is executed when an event happens. -/
def executed? (m : Machine τ) : Event τ → Option Execution
  | .pulse now =>
    match (m.forceStep now).answer with
    | .ok s => s.word.map fun w => ⟨m.state.pc, Instruction.decode w⟩
    | .error _ => none
  | _ => none

/-- The instructions that are executed when events happen. -/
def executions (m : Machine τ) : List (Event τ) → List Execution
  | [] => []
  | e :: es => (m.executed? e).toList ++ (m.happen e).executions es

/-- Whether an event is a reset or a step that fails. -/
def interrupts (m : Machine τ) : Event τ → Bool
  | .reset _ => true
  | .pulse now => !(m.forceStep now).answer.isOk
  | _ => false

/-! ## One step -/

section Step

variable {m : Machine τ} {now : τ}

/-- A step that finds an instruction, which succeeds within the memory, executes it. -/
theorem executed?_of_next? {i : Instruction} {t : State} (hnext : m.next? = some i)
    (he : i.execute (m.processor.tick now).state.advance = .ok t) (hpc : t.pc ≤ 0xFFF) :
    m.executed? (.pulse now) = some ⟨m.state.pc, i⟩ ∧ (m.happen (.pulse now)).state = t := by
  obtain ⟨hmode, w, hfetch, rfl⟩ := next?_eq_some_iff.1 hnext
  have hm : (m.processor.tick now).mode = .running := by
    rw [Processor.mode_tick, hmode]
  have hf : (m.processor.tick now).state.fetch = .ok w := by
    rw [Processor.fetch_tick]
    exact hfetch
  have hstep : m.processor.step now = _ :=
    Processor.proceed_eq_of_proceeds (.executes hm hf he hpc)
  constructor
  · simp only [executed?, answer_forceStep, hstep]
    rfl
  · show (m.forceStep now).after.processor.state = t
    rw [processor_forceStep, hstep]
    rfl

/-- A step that does not fail takes a key, if the machine waits, or executes an instruction. -/
theorem executed?_cases (h : m.interrupts (.pulse now) = false) :
    (m.executed? (.pulse now) = none ∧
      (m.happen (.pulse now)).processor = (m.processor.tick now).resolve.2) ∨
    ∃ i t, m.next? = some i ∧ i.execute (m.processor.tick now).state.advance = .ok t ∧
      m.executed? (.pulse now) = some ⟨m.state.pc, i⟩ ∧ (m.happen (.pulse now)).state = t := by
  change (!(m.forceStep now).answer.isOk) = false at h
  have hproceeds := Processor.proceeds (m.processor.tick now)
  have hstep : m.processor.step now = (m.processor.tick now).proceed := rfl
  have hafter : (m.happen (.pulse now)).processor = (m.processor.tick now).proceed.after := by
    rw [← hstep, ← processor_forceStep]
    rfl
  rw [answer_forceStep, hstep] at h
  rw [hafter]
  generalize ho : (m.processor.tick now).proceed = o at hproceeds h
  cases hproceeds with
  | unfetched hm hf => cases h
  | refused hm hf he => cases h
  | overrun hm hf he hpc => cases h
  | waits hx =>
      refine .inl ⟨?_, rfl⟩
      simp only [executed?, answer_forceStep, hstep, ho]
      rfl
  | @executes w t hm hf he hpc =>
      have hnext : m.next? = some (Instruction.decode w) := by
        rw [Processor.mode_tick] at hm
        rw [Processor.fetch_tick] at hf
        exact next?_eq_some_iff.2 ⟨hm, w, hf, rfl⟩
      obtain ⟨hexec, hstate⟩ := executed?_of_next? hnext he hpc
      exact .inr ⟨_, t, hnext, he, hexec, hstate⟩

end Step

/-! ## The call stack -/

/-- The stack changes only by the instruction that is executed. -/
theorem toList_stack_happen {m : Machine τ} {e : Event τ} (h : m.interrupts e = false) :
    (m.happen e).state.stack.toList =
      (m.executed? e).toList.foldl Execution.transfer m.state.stack.toList := by
  cases e with
  | start => rfl
  | stop => rfl
  | reset now => cases h
  | key key pressed => exact congrArg CallStack.toList (m.stack_setKey key pressed)
  | write data =>
      show (m.loadProgram data).after.state.stack.toList = _
      rcases m.loadProgram_cases data with hm | ⟨memory, hm⟩ <;> rw [hm] <;> rfl
  | pulse now =>
      rcases executed?_cases h with ⟨hexec, hafter⟩ | ⟨i, t, hnext, he, hexec, hstate⟩
      · rw [hexec, state, hafter, Processor.stack_resolve, Processor.stack_tick]
        rfl
      · obtain ⟨_, w, hfetch, _⟩ := next?_eq_some_iff.1 hnext
        have hpc : 0 ≤ m.state.pc ∧ m.state.pc ≤ 0xFFE := State.exists_fetch_iff.1 ⟨w, hfetch⟩
        have hpc' : 0 ≤ (m.processor.tick now).state.pc ∧
            (m.processor.tick now).state.pc ≤ 0xFFE := by
          rw [Processor.pc_tick]
          exact hpc
        rw [hexec, hstate, (Instruction.effect_of_execute he).stack,
          Instruction.toList_nextStack hpc', Processor.stack_tick, Processor.pc_tick]
        rfl

/-- As long as nothing interrupts a machine, its stack is what the executed instructions make of
it. -/
theorem toList_stack_after {m : Machine τ} {es : List (Event τ)} (h : Never interrupts m es) :
    (m.after es).state.stack.toList =
      (m.executions es).foldl Execution.transfer m.state.stack.toList := by
  induction es generalizing m with
  | nil => rfl
  | cons e es ih =>
      obtain ⟨he, hes⟩ := never_cons_iff.1 h
      rw [after_cons, ih hes, toList_stack_happen he, executions, List.foldl_append]

end Machine

end Chip8
