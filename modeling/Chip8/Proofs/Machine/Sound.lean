import Chip8.Proofs.Machine.Event

set_option autoImplicit false

/-! # Reachable machines are sound

Every event leaves a machine with a sound processor if it had one (`sound_happen`). A machine that
was just built has one, and so does every reachable machine (`Reachable.sound`). The faults of
sound processors are all fatal, so that a step that fails halts the machine (`isFatal_of_step`).
-/

namespace Chip8

namespace Processor

variable {τ : Type} {maxDepth : Nat} {p : Processor τ} {o : Outcome (Processor τ) Snapshot}

/-- A step of a sound processor fails with a fault that halts the machine. -/
theorem isFatal_of_proceeds (h : p.Sound maxDepth) (ho : Proceeds p o) {e : Fault}
    (he : o.answer = .error e) : e.isFatal = true := by
  cases ho with
  | waits hx => cases he
  | executes hm hf hx hpc => cases he
  | overrun hm hf hx hpc =>
      cases he
      rfl
  | unfetched hm hf =>
      cases he
      obtain ⟨_, rfl⟩ := (State.fetch_eq_error_iff h.pc.1).1 hf
      rfl
  | refused hm hf hx =>
      cases he
      have hfault := (Instruction.execute_eq_error_iff h.state.index.1 h.state.width_pos
        h.state.height_pos).1 hx
      exact Instruction.isFatal_of_fault? hfault

end Processor

/-- The processor that a configuration describes is sound. -/
theorem Config.sound_machine {τ : Type} (c : Config) (random : Twister) (period now : τ) :
    (c.machine random period now).processor.Sound c.stackDepth where
  state := {
    index := by
      show (0 : Int) ≤ 0 ∧ (0 : Int) ≤ 0xFFFF
      decide
    sp := rfl
    depth := rfl
    given := rfl
    size := Nat.zero_le _
    entries := nofun
    width := rfl
    height := rfl }
  pc := by
    show (0 : Int) ≤ 0x200 ∧ (0x200 : Int) ≤ 0x1000
    decide
  waits := nofun
  latch := ⟨fun _ => rfl, fun _ => rfl⟩

namespace Machine

variable {τ : Type} {maxDepth : Nat} {m : Machine τ}

/-- A program that is put into memory changes nothing else. -/
theorem loadProgram_cases (m : Machine τ) (data : List Int) :
    (m.loadProgram data).after = m ∨ ∃ memory, (m.loadProgram data).after =
      m.mapProcessor fun p => { p with state := { p.state with memory } } := by
  unfold loadProgram
  split
  · cases m.state.memory.load programStart data with
    | error e => exact .inl rfl
    | ok memory => exact .inr ⟨memory, rfl⟩
  · exact .inl rfl

variable [Sub τ] [LT τ] [DecidableLT τ]

theorem sound_happen (h : m.processor.Sound maxDepth) (e : Event τ) :
    (m.happen e).processor.Sound maxDepth := by
  cases e with
  | start => exact h
  | stop => exact h
  | reset now => exact h.reset now
  | pulse now =>
      show (m.forceStep now).after.processor.Sound maxDepth
      rw [processor_forceStep]
      exact h.step now
  | write data =>
      show (m.loadProgram data).after.processor.Sound maxDepth
      rcases m.loadProgram_cases data with hm | ⟨memory, hm⟩
      · rw [hm]
        exact h
      · rw [hm]
        exact ⟨h.state.congr rfl rfl rfl rfl, h.pc, h.waits, h.latch⟩
  | key key pressed =>
      have hset := h.setKey key pressed
      show (m.processor.setKey key pressed m.isRunning).Sound maxDepth
      unfold Processor.setKey
      split
      · exact hset.resolve
      · exact hset

theorem sound_after (h : m.processor.Sound maxDepth) (es : List (Event τ)) :
    (m.after es).processor.Sound maxDepth := by
  induction es generalizing m with
  | nil => exact h
  | cons e es ih => exact ih (sound_happen h e)

namespace Reachable

variable {c : Config}

theorem sound (h : Reachable c m) : m.processor.Sound c.stackDepth := by
  induction h with
  | built random period now => exact c.sound_machine random period now
  | act a _ ih =>
      -- an action is the list of its events, each of which keeps the processor sound
      rw [act_eq_after_events]
      exact sound_after ih _

/-- Every single event is an action, too. -/
theorem happen (h : Reachable c m) (e : Event τ) : Reachable c (m.happen e) := by
  cases e with
  | start => exact h.act .start
  | stop => exact h.act .stop
  | reset now => exact h.act (.reset now)
  | pulse now => exact h.act (.forceStep now)
  | write data => exact h.act (.loadProgram data)
  | key key pressed =>
      -- a host names a key by its number
      have hkey : Key.ofValue (.int key.val) = .ok key := by
        simp only [Key.ofValue]
        rw [dif_pos (by omega)]
        rfl
      have hact := h.act (.setKey (.int key.val) pressed)
      rwa [act_eq_after_events, events, hkey] at hact

theorem after (h : Reachable c m) (es : List (Event τ)) : Reachable c (m.after es) := by
  induction es generalizing m with
  | nil => exact h
  | cons e es ih => exact ih (h.happen e)

/-- The stack pointer counts the addresses on the stack. -/
theorem sp_eq (h : Reachable c m) : m.state.registers.sp = m.state.stack.toList.length := by
  rw [CallStack.length_toList]
  exact h.sound.state.sp

end Reachable

/-- A step of a reachable machine that fails halts it. -/
theorem isFatal_of_step {c : Config} (h : Reachable c m) {now : τ} {e : Fault}
    (he : (m.processor.step now).answer = .error e) : e.isFatal = true :=
  Processor.isFatal_of_proceeds (h.sound.tick now) (Processor.proceeds _) he

end Machine

end Chip8
