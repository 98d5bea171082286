import Chip8.Proofs.Machine.Sound
import Mathlib.Data.List.Induction

set_option autoImplicit false

/-! # Waits for a key

A wait for a key is begun by one kind of instruction (`Begins`) and ended by one kind of change
(`Completes`): the key that was caught goes into the register that waits, and the program counter
moves on. Whenever a machine waits, its history has the step that began the wait, at the address
where the program counter has stood since (`began_of_waiting`).

The end of a wait is also the only way for the program counter to get behind the last address. A
machine that stands there has come there by a wait at the last word, and has not moved since
(`overstepped_of_pc`).
-/

namespace Chip8

namespace Processor

variable {τ : Type} {maxDepth : Nat} {p : Processor τ} {o : Outcome (Processor τ) Snapshot}

/-- A step that leaves the processor waiting found it so, or began the wait. -/
theorem waiting_of_proceeds (h : p.Sound maxDepth) (ho : Proceeds p o) {x : Reg}
    (hx : o.after.mode = .awaitingKey x) :
    o.after.state.pc = p.state.pc ∧
      (p.mode = .awaitingKey x ∨
        p.mode = .running ∧ ∃ w, p.state.fetch = .ok w ∧ Instruction.decode w = .awaitKey x) := by
  cases ho with
  | waits hy =>
      change p.resolve.2.mode = _ at hx
      show p.resolve.2.state.pc = _ ∧ _
      rcases p.resolve_cases with hr | ⟨y, key, _, _, hr⟩
      · rw [hr] at hx ⊢
        exact ⟨rfl, .inl hx⟩
      · rw [hr] at hx
        cases hx
  | unfetched hm hf => cases hm.symm.trans hx
  | refused hm hf he => cases hm.symm.trans hx
  | overrun hm hf he hpc => cases hm.symm.trans hx
  | @executes w t hm hf he hpc =>
      have heffect := Instruction.effect_of_execute he
      change (if t.keypad.isAwaiting then .awaitingKey w.x else p.mode) = Mode.awaitingKey x at hx
      cases hk : t.keypad.isAwaiting with
      | false =>
          rw [hk, if_neg Bool.false_ne_true] at hx
          cases hm.symm.trans hx
      | true =>
          rw [hk, if_pos rfl] at hx
          cases hx
          -- the keypad did not wait before, so that the instruction has made it
          rw [heffect.keypad] at hk
          obtain ⟨y, hy⟩ := Instruction.eq_awaitKey_of_nextKeypad (h.latch.1 hm) hk
          have hpc' : t.pc = p.state.pc := by
            rw [heffect.pc (State.exists_fetch_iff.1 ⟨w, hf⟩), hy]
            rfl
          rw [Instruction.x_of_decode_eq_awaitKey hy] at hy
          exact ⟨hpc', .inr ⟨hm, w, hf, hy⟩⟩

/-- A step that leaves the program counter behind the last address found it there, or ended a
wait. -/
theorem overstepping_of_proceeds (ho : Proceeds p o) (hpc : o.after.state.pc = 0x1000) :
    p.state.pc = 0x1000 ∨
      ∃ x key, p.mode = .awaitingKey x ∧ p.state.keypad.latch = .caught key ∧
        o.after = p.completed x key := by
  cases ho with
  | waits hy =>
      rcases p.resolve_cases with hr | ⟨y, key, hm, hk, hr⟩
      · simp only [hr] at hpc
        exact .inl hpc
      · exact .inr ⟨y, key, hm, hk, hr⟩
  | unfetched hm hf => exact .inl hpc
  | refused hm hf he => exact .inl hpc
  | overrun hm hf he hlt => exact .inl hpc
  | @executes w t hm hf he hle =>
      change t.pc = 0x1000 at hpc
      omega

end Processor

namespace Machine

variable {τ : Type}

/-- A step of the machine would begin a wait for a key for `Vx`. -/
structure Begins (m : Machine τ) (x : Reg) : Prop where
  mode : m.processor.mode = .running
  word : ∃ w, m.state.fetch = .ok w ∧ Instruction.decode w = .awaitKey x

/-- A wait for a key for `Vx` has ended with a key. But for the timers nothing else has changed:
no instruction was executed. -/
structure Completes (x : Reg) (key : Key) (m n : Machine τ) : Prop where
  waiting : m.processor.mode = .awaitingKey x
  mode : n.processor.mode = .running
  latch : n.state.keypad.latch = .idle
  registers : n.state.registers = (m.state.registers.set x (UInt8.ofNat key.val)).skip
  memory : n.state.memory = m.state.memory
  stack : n.state.stack = m.state.stack
  screen : n.state.screen = m.state.screen
  random : n.state.random = m.state.random
  count : n.processor.count = m.processor.count

theorem completes_of_caught {m n : Machine τ} {x : Reg} {key : Key} (keypad : Keypad)
    (delay sound : Timer) (lastTick : τ) (hx : m.processor.mode = .awaitingKey x)
    (hn : n.processor = Processor.completed
      { m.processor with state := { m.state with keypad, delay, sound }, lastTick } x key) :
    Completes x key m n := by
  obtain ⟨processor, phase⟩ := n
  change processor = _ at hn
  subst hn
  exact ⟨hx, rfl, rfl, rfl, rfl, rfl, rfl, rfl, rfl⟩

variable [Sub τ] [LT τ] [DecidableLT τ]

/-! ## What one event can do -/

section Event

variable {maxDepth : Nat} {m : Machine τ}

theorem completes_pulse {x : Reg} {key : Key} (now : τ) (hx : m.processor.mode = .awaitingKey x)
    (hk : m.state.keypad.latch = .caught key) : Completes x key m (m.happen (.pulse now)) := by
  obtain ⟨delay, sound, lastTick, htick⟩ := m.processor.exists_tick now
  refine completes_of_caught m.state.keypad delay sound lastTick hx ?_
  show (m.forceStep now).after.processor = _
  have hmode : (m.processor.tick now).mode = .awaitingKey x := by rw [Processor.mode_tick, hx]
  have hlatch : (m.processor.tick now).state.keypad.latch = .caught key := by
    rw [Processor.keypad_tick]
    exact hk
  rw [processor_forceStep, Processor.step, Processor.proceed_of_awaiting hmode]
  show (m.processor.tick now).resolve.2 = _
  rw [Processor.resolve_of_caught hmode hlatch, htick]
  rfl

theorem completes_key {x : Reg} {key k : Key} {pressed : Bool}
    (hx : m.processor.mode = .awaitingKey x) (hrun : m.isRunning = true)
    (hk : (m.state.keypad.set k pressed).latch = .caught key) :
    Completes x key m (m.happen (.key k pressed)) := by
  refine completes_of_caught (m.state.keypad.set k pressed) m.state.delay m.state.sound
    m.processor.lastTick hx ?_
  show m.processor.setKey k pressed m.isRunning = _
  rw [hrun]
  exact Processor.resolve_of_caught hx hk

/-- A machine that waits after an event waited before it, at the same address, or the event was
the step that began the wait. -/
theorem waiting_of_happen (h : m.processor.Sound maxDepth) {e : Event τ} {x : Reg}
    (hx : (m.happen e).processor.mode = .awaitingKey x) :
    (m.happen e).state.pc = m.state.pc ∧
      (m.processor.mode = .awaitingKey x ∨ ∃ now, e = .pulse now ∧ m.Begins x) := by
  cases e with
  | start => exact ⟨rfl, .inl hx⟩
  | stop => exact ⟨rfl, .inl hx⟩
  | reset now => cases hx
  | pulse now =>
      have hproceeds := Processor.proceeds (m.processor.tick now)
      change (m.forceStep now).after.processor.mode = _ at hx
      show (m.forceStep now).after.processor.state.pc = _ ∧ _
      rw [processor_forceStep] at hx ⊢
      have hwait := Processor.waiting_of_proceeds (h.tick now) hproceeds hx
      rw [Processor.pc_tick, Processor.mode_tick, Processor.fetch_tick] at hwait
      refine ⟨hwait.1, ?_⟩
      rcases hwait.2 with hm | ⟨hm, hw⟩
      · exact .inl hm
      · exact .inr ⟨now, rfl, hm, hw⟩
  | write data =>
      change (m.loadProgram data).after.processor.mode = _ at hx
      show (m.loadProgram data).after.state.pc = _ ∧ _
      rcases m.loadProgram_cases data with hm | ⟨memory, hm⟩
      · rw [hm] at hx ⊢
        exact ⟨rfl, .inl hx⟩
      · rw [hm] at hx ⊢
        exact ⟨rfl, .inl hx⟩
  | key k pressed =>
      change (m.processor.setKey k pressed m.isRunning).mode = _ at hx
      show (m.processor.setKey k pressed m.isRunning).state.pc = _ ∧ _
      unfold Processor.setKey at hx ⊢
      split at hx
      · rename_i hrun
        rw [if_pos hrun]
        rcases Processor.resolve_cases _ with hr | ⟨y, key, _, _, hr⟩
        · rw [hr] at hx ⊢
          exact ⟨rfl, .inl hx⟩
        · rw [hr] at hx
          cases hx
      · rename_i hrun
        rw [if_neg hrun]
        exact ⟨rfl, .inl hx⟩

/-- A machine that stands behind the last address after an event stood there before it, or the
event has ended a wait at the last word. -/
theorem overstepping_of_happen {e : Event τ} (hpc : (m.happen e).state.pc = 0x1000) :
    m.state.pc = 0x1000 ∨ m.state.pc = 0xFFE ∧ ∃ x key, Completes x key m (m.happen e) := by
  -- the end of a wait moves the program counter on by one word
  have hcompletes : ∀ x key, Completes x key m (m.happen e) →
      m.state.pc = 0xFFE ∧ ∃ x key, Completes x key m (m.happen e) := by
    intro x key hc
    have hskip : (m.happen e).state.pc = m.state.pc + 2 := congrArg Registers.pc hc.registers
    exact ⟨by omega, x, key, hc⟩
  cases e with
  | start => exact .inl hpc
  | stop => exact .inl hpc
  | reset now => cases hpc
  | pulse now =>
      have hproceeds := Processor.proceeds (m.processor.tick now)
      change (m.forceStep now).after.processor.state.pc = _ at hpc
      rw [processor_forceStep] at hpc
      rcases Processor.overstepping_of_proceeds hproceeds hpc with hp | ⟨x, key, hm, hk, _⟩
      · rw [Processor.pc_tick] at hp
        exact .inl hp
      · rw [Processor.mode_tick] at hm
        rw [Processor.keypad_tick] at hk
        exact .inr (hcompletes x key (completes_pulse now hm hk))
  | write data =>
      change (m.loadProgram data).after.state.pc = _ at hpc
      rcases m.loadProgram_cases data with hm | ⟨memory, hm⟩
      · rw [hm] at hpc
        exact .inl hpc
      · rw [hm] at hpc
        exact .inl hpc
  | key k pressed =>
      by_cases hrun : m.isRunning = true
      · change (m.processor.setKey k pressed m.isRunning).state.pc = _ at hpc
        rw [hrun] at hpc
        change (m.processor.setKey k pressed false).resolve.2.state.pc = _ at hpc
        rcases Processor.resolve_cases (m.processor.setKey k pressed false) with
          hr | ⟨x, key, hm, hk, _⟩
        · rw [hr] at hpc
          exact .inl hpc
        · exact .inr (hcompletes x key (completes_key hm hrun hk))
      · change (m.processor.setKey k pressed m.isRunning).state.pc = _ at hpc
        rw [Bool.eq_false_iff.2 hrun] at hpc
        exact .inl hpc

end Event

/-! ## Histories -/

/-- Whether all the machines that events lead through, from the first one to the last, have a
property. -/
def Throughout (P : Machine τ → Prop) (m : Machine τ) (es : List (Event τ)) : Prop :=
  ∀ pre, pre <+: es → P (m.after pre)

theorem throughout_nil {P : Machine τ → Prop} {m : Machine τ} (h : P m) : m.Throughout P [] := by
  intro pre hpre
  rw [List.prefix_nil.1 hpre]
  exact h

theorem throughout_concat {P : Machine τ → Prop} {m : Machine τ} {es : List (Event τ)} {e : Event τ}
    (h : m.Throughout P es) (he : P (m.after (es ++ [e]))) : m.Throughout P (es ++ [e]) := by
  intro pre hpre
  rcases List.prefix_concat_iff.1 hpre with rfl | hpre
  · exact he
  · exact h pre hpre

/-- In the course of events, a step began a wait for a key for `Vx` at the address `a`, and the
machine has waited there since. -/
def Began (m : Machine τ) (es : List (Event τ)) (x : Reg) (a : Int) : Prop :=
  ∃ pre now post, es = pre ++ .pulse now :: post ∧
    (m.after pre).Begins x ∧ (m.after pre).state.pc = a ∧
    (m.after (pre ++ [.pulse now])).Throughout
      (fun n => n.processor.mode = .awaitingKey x ∧ n.state.pc = a) post

/-- In the course of events, a wait at the last word of the memory ended, and the program counter
has stood behind the memory since. -/
def Overstepped (m : Machine τ) (es : List (Event τ)) : Prop :=
  ∃ pre e post x key, es = pre ++ e :: post ∧ m.Began pre x 0xFFE ∧
    Completes x key (m.after pre) (m.after (pre ++ [e])) ∧
    (m.after (pre ++ [e])).Throughout (fun n => n.state.pc = 0x1000) post

theorem after_concat (m : Machine τ) (es : List (Event τ)) (e : Event τ) :
    m.after (es ++ [e]) = (m.after es).happen e := by
  rw [after_append]
  rfl

section History

variable {m : Machine τ} {es : List (Event τ)} {e : Event τ} {x : Reg} {a : Int}

/-- A wait that has begun goes on through an event which leaves it. -/
theorem Began.concat (h : m.Began es x a)
    (he : (m.after (es ++ [e])).processor.mode = .awaitingKey x ∧
      (m.after (es ++ [e])).state.pc = a) :
    m.Began (es ++ [e]) x a := by
  obtain ⟨pre, now, post, rfl, hbegins, hpc, hpost⟩ := h
  refine ⟨pre, now, post ++ [e], by rw [List.append_assoc]; rfl, hbegins, hpc, ?_⟩
  refine throughout_concat hpost ?_
  rwa [← after_append, ← List.append_assoc, List.append_assoc pre, List.singleton_append]

/-- A step begins a wait. -/
theorem began_concat {now : τ} (hbegins : (m.after es).Begins x) (hpc : (m.after es).state.pc = a)
    (he : (m.after (es ++ [.pulse now])).processor.mode = .awaitingKey x ∧
      (m.after (es ++ [.pulse now])).state.pc = a) :
    m.Began (es ++ [.pulse now]) x a :=
  ⟨es, now, [], rfl, hbegins, hpc, throughout_nil he⟩

theorem Overstepped.concat (h : m.Overstepped es) (he : (m.after (es ++ [e])).state.pc = 0x1000) :
    m.Overstepped (es ++ [e]) := by
  obtain ⟨pre, d, post, x, key, rfl, hbegan, hcompletes, hpost⟩ := h
  refine ⟨pre, d, post ++ [e], x, key, by rw [List.append_assoc]; rfl, hbegan, hcompletes, ?_⟩
  refine throughout_concat hpost ?_
  rwa [← after_append, ← List.append_assoc, List.append_assoc pre, List.singleton_append]

/-- Whenever a machine that ran at first waits for a key, a step of its history began that wait. -/
theorem began_of_waiting {maxDepth : Nat} (hsound : m.processor.Sound maxDepth)
    (hmode : m.processor.mode = .running) (hx : (m.after es).processor.mode = .awaitingKey x) :
    m.Began es x (m.after es).state.pc := by
  -- The history grows at its end: the last event has begun the wait, or has left one that the
  -- events before it began.
  induction es using List.reverseRecOn with
  | nil => cases hmode.symm.trans hx
  | append_singleton es e ih =>
      have hwaits := hx
      rw [after_concat] at hwaits
      obtain ⟨hpc, hm⟩ := waiting_of_happen (sound_after hsound es) hwaits
      have hsame : (m.after (es ++ [e])).state.pc = (m.after es).state.pc := by
        calc (m.after (es ++ [e])).state.pc
            = ((m.after es).happen e).state.pc := by rw [after_concat]
          _ = (m.after es).state.pc := hpc
      rw [hsame]
      rcases hm with hm | ⟨now, rfl, hbegins⟩
      · exact (ih hm).concat ⟨hx, hsame⟩
      · exact began_concat hbegins rfl ⟨hx, hsame⟩

/-- Whenever a machine that began inside the memory stands behind it, its history has a wait at the
last word, which has ended. -/
theorem overstepped_of_pc {maxDepth : Nat} (hsound : m.processor.Sound maxDepth)
    (hmode : m.processor.mode = .running) (hstart : m.state.pc ≠ 0x1000)
    (hpc : (m.after es).state.pc = 0x1000) : m.Overstepped es := by
  -- as before, with the end of a wait in place of its beginning
  induction es using List.reverseRecOn with
  | nil => exact absurd hpc hstart
  | append_singleton es e ih =>
      have hbehind := hpc
      rw [after_concat] at hbehind
      rcases overstepping_of_happen hbehind with hp | ⟨hp, x, key, hcompletes⟩
      · exact (ih hp).concat hpc
      · refine ⟨es, e, [], x, key, rfl, ?_, ?_, throughout_nil hpc⟩
        · have hbegan := began_of_waiting hsound hmode hcompletes.waiting
          rwa [hp] at hbegan
        · rw [after_concat]
          exact hcompletes

end History

end Machine

end Chip8
