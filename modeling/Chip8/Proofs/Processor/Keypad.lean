import Chip8.Proofs.Processor.Step

set_option autoImplicit false

/-! # Steps that do not look at the keypad

Only three kinds of instruction have to do with the keypad: the two skips that ask whether a key is
down, and the wait for a key. Any other one does the same whatever the keypad is like, and leaves it
alone (`execute_withKeypad`). So does a step that comes upon it, whether or not the step fails
(`step_withKeypad`), as long as no wait is involved.
-/

namespace Chip8

/-- Whether an instruction has to do with the keypad. -/
def Instruction.looksAtKeypad : Instruction → Bool
  | skipIfKey _ => true
  | skipUnlessKey _ => true
  | awaitKey _ => true
  | _ => false

/-- The state with another keypad. -/
def State.withKeypad (s : State) (keypad : Keypad) : State := { s with keypad }

/-- An instruction that does not look at the keypad does the same whatever it is like. -/
theorem Instruction.execute_withKeypad {i : Instruction} (hi : i.looksAtKeypad = false) (s : State)
    (keypad : Keypad) :
    i.execute (s.withKeypad keypad) = (i.execute s).map (·.withKeypad keypad) := by
  cases i with
  | skipIfKey x => cases hi
  | skipUnlessKey x => cases hi
  | awaitKey x => cases hi
  | call nnn =>
      rw [execute, execute, map_map]
      rfl
  | draw x y n =>
      have hblock : (s.withKeypad keypad).memory.block (s.withKeypad keypad).registers.i n.val =
          s.memory.block s.registers.i n.val := rfl
      rw [execute, execute, hblock]
      cases s.memory.block s.registers.i n.val with
      | error e => rfl
      | ok rows =>
          dsimp only
          rw [map_map]
          rfl
  | storeDecimal x =>
      rw [execute, execute, map_map]
      rfl
  | store x =>
      rw [execute, execute, map_map]
      rfl
  | load x =>
      rw [execute, execute, map_map]
      rfl
  | _ => rfl

theorem Instruction.nextKeypad_of_not_looksAtKeypad {i : Instruction}
    (hi : i.looksAtKeypad = false) (s : State) : i.nextKeypad s = s.keypad := by
  cases i with
  | awaitKey x => cases hi
  | _ => rfl

namespace Processor

variable {τ : Type}

/-- The processor with another keypad. -/
def withKeypad (p : Processor τ) (keypad : Keypad) : Processor τ :=
  { p with state := p.state.withKeypad keypad }

/-- The processor waits for no key. -/
structure Free (p : Processor τ) : Prop where
  mode : p.mode = .running
  latch : p.state.keypad.isAwaiting = false

/-- The instruction that the next step comes upon, if there is one, does not look at the keypad. -/
def LooksAway (p : Processor τ) : Prop :=
  ∀ w, p.state.fetch = .ok w → (Instruction.decode w).looksAtKeypad = false

/-- A key that is pressed or released while no wait is going on changes the keypad alone. -/
theorem Free.setKey_eq {p : Processor τ} (h : p.Free) (key : Key) (pressed resolving : Bool) :
    p.setKey key pressed resolving = p.withKeypad (p.state.keypad.set key pressed) := by
  unfold setKey
  split
  · exact resolve_of_running h.mode
  · rfl

theorem Free.withKeypad {p : Processor τ} (h : p.Free) {keypad : Keypad}
    (hidle : keypad.isAwaiting = false) : (p.withKeypad keypad).Free := ⟨h.mode, hidle⟩

section Proceeds

variable {p : Processor τ} {o : Outcome (Processor τ) Snapshot}

theorem keypad_of_proceeds (h : p.Free) (haway : p.LooksAway) (ho : Proceeds p o) :
    o.after.mode = .running ∧ o.after.state.keypad = p.state.keypad := by
  have hkeypad {w : Word} {t : State} (hf : p.state.fetch = .ok w)
      (he : (Instruction.decode w).execute p.state.advance = .ok t) :
      t.keypad = p.state.keypad := by
    rw [(Instruction.effect_of_execute he).keypad]
    exact Instruction.nextKeypad_of_not_looksAtKeypad (haway w hf) _
  cases ho with
  | waits hx => cases h.mode.symm.trans hx
  | unfetched hm hf => exact ⟨hm, rfl⟩
  | refused hm hf he => exact ⟨hm, rfl⟩
  | overrun hm hf he hpc =>
      have ht := hkeypad hf he
      exact ⟨hm, ht⟩
  | @executes w t hm hf he hpc =>
      have ht := hkeypad hf he
      refine ⟨?_, ht⟩
      show (if t.keypad.isAwaiting then _ else p.mode) = _
      rw [ht, h.latch, if_neg Bool.false_ne_true, hm]

/-- With another keypad a step has the same outcome, up to that keypad. -/
theorem proceeds_withKeypad (h : p.Free) (haway : p.LooksAway) {keypad : Keypad}
    (hidle : keypad.isAwaiting = false) (ho : Proceeds p o) :
    Proceeds (p.withKeypad keypad) (o.map (·.withKeypad keypad) id) := by
  have hexecute {w : Word} {r : Except Fault State} (hf : p.state.fetch = .ok w)
      (he : (Instruction.decode w).execute p.state.advance = r) :
      (Instruction.decode w).execute (p.withKeypad keypad).state.advance =
        r.map (·.withKeypad keypad) := by
    rw [← he]
    exact Instruction.execute_withKeypad (haway w hf) p.state.advance keypad
  have hkeypad := keypad_of_proceeds h haway ho
  cases ho with
  | waits hx => cases h.mode.symm.trans hx
  | unfetched hm hf => exact .unfetched hm hf
  | refused hm hf he => exact .refused hm hf (hexecute hf he)
  | @overrun w t hm hf he hpc =>
      exact @Proceeds.overrun τ (p.withKeypad keypad) w (t.withKeypad keypad) hm hf
        (hexecute hf he) hpc
  | @executes w t hm hf he hpc =>
      -- neither of the two begins to wait
      have hexecuted : (p.withKeypad keypad).executed w (t.withKeypad keypad) =
          (p.executed w t).withKeypad keypad := by
        have hmode : (p.executed w t).mode = p.mode := hkeypad.1.trans hm.symm
        show ({ p with
          state := t.withKeypad keypad
          count := p.count + 1
          mode := if keypad.isAwaiting then .awaitingKey w.x else p.mode } : Processor τ) =
          { p with
            state := t.withKeypad keypad
            count := p.count + 1
            mode := (p.executed w t).mode }
        rw [hmode, hidle, if_neg Bool.false_ne_true]
      have hstep := @Proceeds.executes τ (p.withKeypad keypad) w _ hm hf (hexecute hf he) hpc
      rw [hexecuted] at hstep
      exact hstep

end Proceeds

section Clock

variable [Sub τ] [LT τ] [DecidableLT τ] {p : Processor τ}

theorem tick_withKeypad (p : Processor τ) (keypad : Keypad) (now : τ) :
    (p.withKeypad keypad).tick now = (p.tick now).withKeypad keypad := by
  show (if now - p.lastTick < p.period then _ else _) = _
  unfold tick
  split <;> rfl

theorem Free.tick (h : p.Free) (now : τ) : (p.tick now).Free :=
  ⟨by rw [mode_tick, h.mode], by rw [keypad_tick, h.latch]⟩

theorem LooksAway.tick (h : p.LooksAway) (now : τ) : (p.tick now).LooksAway := by
  intro w hw
  rw [fetch_tick] at hw
  exact h w hw

theorem step_withKeypad (h : p.Free) (haway : p.LooksAway) {keypad : Keypad}
    (hidle : keypad.isAwaiting = false) (now : τ) :
    (p.withKeypad keypad).step now = (p.step now).map (·.withKeypad keypad) id := by
  rw [step, tick_withKeypad]
  exact proceed_eq_of_proceeds
    (proceeds_withKeypad (h.tick now) (haway.tick now) hidle (proceeds _))

theorem keypad_step (h : p.Free) (haway : p.LooksAway) (now : τ) :
    (p.step now).after.mode = .running ∧ (p.step now).after.state.keypad = p.state.keypad := by
  have hkeypad := keypad_of_proceeds (h.tick now) (haway.tick now) (proceeds _)
  rw [keypad_tick] at hkeypad
  exact hkeypad

theorem Free.step (h : p.Free) (haway : p.LooksAway) (now : τ) : (p.step now).after.Free := by
  obtain ⟨hmode, hkeypad⟩ := keypad_step h haway now
  exact ⟨hmode, by rw [hkeypad, h.latch]⟩

end Clock

end Processor

end Chip8
