import Chip8.Machine.Dump
import Chip8.Proofs.Machine.Catch
import Chip8.Proofs.Processor.Keypad

set_option autoImplicit false

/-! # A machine that does not run

As long as a machine does not run, the actions of a host that neither start nor force it do nothing
but set keys (`Idled`). No step executes anything, and the timers stand still however much time
passes. A wait for a key that is going on is not resolved, but the keypad catches the first key that
goes down since the wait began, be it before the machine was stopped or after (`idle_changes_keys`).
-/

namespace Chip8

namespace Machine

variable {τ : Type}

/-- Whether an action can take no step of a machine that does not run, and does not replace what
the machine holds. -/
def Action.isIdle : Action τ → Bool
  | .step _ => true
  | .run _ _ => true
  | .stop => true
  | .setKey _ _ => true
  | _ => false

/-- The machine `n`, which does not run, is `m` after settings of keys, up to its phase. -/
structure Idled (ks : List (Key × Bool)) (m n : Machine τ) : Prop where
  processor : n.processor = m.processor.withKeypad (m.state.keypad.setAll ks)
  stopped : n.isRunning = false

theorem Idled.refl {m : Machine τ} (h : m.isRunning = false) : Idled [] m m := ⟨rfl, h⟩

/-- The keypad is the only part that settings have changed. -/
theorem Idled.keypad {m n : Machine τ} {ks : List (Key × Bool)} (h : Idled ks m n) :
    n.state.keypad = m.state.keypad.setAll ks := by
  rw [state, h.processor]
  rfl

theorem Idled.trans {m n k : Machine τ} {ks ls : List (Key × Bool)} (h : Idled ks m n)
    (h' : Idled ls n k) : Idled (ks ++ ls) m k := by
  refine ⟨?_, h'.stopped⟩
  rw [h'.processor, h.keypad, h.processor, Keypad.setAll_append]
  rfl

variable [Sub τ] [LT τ] [DecidableLT τ]

/-! ## One action -/

section Action

variable {m : Machine τ}

theorem step_of_stopped (h : m.isRunning = false) (now : τ) :
    m.step now = { answer := .ok none, after := m } := by
  rw [step, h]
  rfl

theorem run_of_stopped (h : m.isRunning = false) (clock : Nat → τ) (count : Nat) :
    m.run clock count = { answer := .ok none, after := m } := by
  cases count with
  | zero => rfl
  | succ count =>
      rw [run, runFrom]
      simp only [h]
      rfl

theorem idled_setKey (h : m.isRunning = false) (given : Value) (pressed : Bool) :
    Idled (Key.setting? given pressed).toList m (m.act (.setKey given pressed)) := by
  show Idled _ m (m.setKeyNamed given pressed).after
  unfold Key.setting? setKeyNamed
  cases Key.ofValue given with
  | error e => exact .refl h
  | ok key =>
      refine ⟨?_, h⟩
      show m.processor.setKey key pressed m.isRunning = _
      rw [h]
      rfl

/-- An idle action sets a key, or does nothing. -/
theorem idled_act (h : m.isRunning = false) {a : Action τ} (ha : a.isIdle = true) :
    Idled a.setting?.toList m (m.act a) := by
  cases a with
  | step now =>
      show Idled [] m (m.step now).after
      rw [step_of_stopped h]
      exact .refl h
  | run clock count =>
      show Idled [] m (m.run clock count).after
      rw [run_of_stopped h]
      exact .refl h
  | stop => exact ⟨rfl, rfl⟩
  | setKey given pressed => exact idled_setKey h given pressed
  | _ => cases ha

end Action

/-! ## Many actions -/

theorem idled_acts {m : Machine τ} (h : m.isRunning = false) {as : List (Action τ)}
    (has : ∀ a ∈ as, a.isIdle = true) : Idled (as.filterMap Action.setting?) m (m.acts as) := by
  induction as generalizing m with
  | nil => exact .refl h
  | cons a as ih =>
      have hone := idled_act h (has a List.mem_cons_self)
      have hrest := ih hone.stopped fun b hb => has b (List.mem_cons_of_mem a hb)
      have hsettings : (a :: as).filterMap Action.setting? =
          a.setting?.toList ++ as.filterMap Action.setting? := by
        cases hs : a.setting? <;> simp [hs]
      rw [acts_cons, hsettings]
      exact hone.trans hrest

/-- **Idle actions change nothing but keys.** Let a reachable machine `m₀` not wait for a key, such
as one that was just built. Let it not run after actions `as`, whatever they are (`m`), and let a
host then step it, run it, stop it and set keys, in any order and at any time (`bs`).

Then the processor is as it was but for the keypad, the machine does not run, and steps and runs
give nothing and leave it as it is. Every key is as it was set last. If the machine waited for a key
for `Vx`, then it still does; a step in the course of all the actions has begun this wait, and the
keypad has caught the first key that went down since. -/
theorem idle_changes_keys {c : Config} {m₀ : Machine τ} (h₀ : Reachable c m₀)
    (hfresh : m₀.processor.mode = .running) {as bs : List (Action τ)}
    (hstopped : (m₀.acts as).phase ≠ .running) (hidle : ∀ b ∈ bs, b.isIdle = true) :
    let m := m₀.acts as
    let n := m.acts bs
    (n.processor = m.processor.withKeypad n.state.keypad ∧ n.phase ≠ .running) ∧
    (∀ now, n.step now = { answer := .ok none, after := n }) ∧
    (∀ clock count, n.run clock count = { answer := .ok none, after := n }) ∧
    (n.frame = m.frame ∧ n.dump = m.dump ∧ n.soundActive = m.soundActive) ∧
    (∀ key, n.state.keypad.isDown key =
      (key.lastSetting? (bs.filterMap Action.setting?)).getD (m.state.keypad.isDown key)) ∧
    ∀ x, m.processor.mode = .awaitingKey x →
      n = m₀.after (m₀.trace (as ++ bs)) ∧ m₀.Catches (m₀.trace (as ++ bs)) x m.state.pc := by
  intro m n
  have hnot : m.isRunning = false := beq_eq_false_iff_ne.2 hstopped
  have hidled : Idled (bs.filterMap Action.setting?) m n := idled_acts hnot hidle
  have hprocessor : n.processor = m.processor.withKeypad n.state.keypad := by
    rw [hidled.keypad]
    exact hidled.processor
  have hphase : n.phase ≠ .running := beq_eq_false_iff_ne.1 hidled.stopped
  refine ⟨⟨hprocessor, hphase⟩, step_of_stopped hidled.stopped, run_of_stopped hidled.stopped,
    ?_, ?_, ?_⟩
  · unfold frame dump soundActive state
    rw [hprocessor]
    exact ⟨rfl, rfl, rfl⟩
  · intro key
    rw [hidled.keypad, Keypad.isDown_setAll]
  · intro x hx
    have htrace : n = m₀.after (m₀.trace (as ++ bs)) := by
      rw [← acts_eq_after_trace, acts_append]
    have hmode : (m₀.after (m₀.trace (as ++ bs))).processor.mode = .awaitingKey x := by
      rw [← htrace, hprocessor]
      exact hx
    have hpc : (m₀.after (m₀.trace (as ++ bs))).state.pc = m.state.pc := by
      rw [← htrace, state, hprocessor]
      rfl
    have hbegan := began_of_waiting h₀.sound hfresh hmode
    rw [hpc] at hbegan
    exact ⟨htrace, hbegan.catches⟩

/-- The program `F30A` waits in a machine that was stopped. Key 5 goes down and is released, key 7
goes down, 16 is no key, and the steps and runs in between do nothing. -/
theorem idle_changes_keys_of_wait :
    let m₀ : Machine Nat := Config.machine {} (.ofSeed 0) 1 0
    let as : List (Action Nat) := [.loadProgram [0xF3, 0x0A], .start, .step 0, .stop]
    let bs : List (Action Nat) :=
      [.setKey (.int 5) true, .step 9, .setKey (.int 16) true, .setKey (.int 7) true,
        .run (fun k => 10 + k) 3, .setKey (.int 5) false, .stop]
    let m := m₀.acts as
    let n := m.acts bs
    Reachable {} m₀ ∧ m₀.processor.mode = .running ∧ m.phase ≠ .running ∧
      (∀ b ∈ bs, b.isIdle = true) ∧ m.processor.mode = .awaitingKey 3 ∧
      n.processor = m.processor.withKeypad n.state.keypad ∧ n.phase ≠ .running ∧
      (n.step 20).answer = .ok none ∧ n.state.keypad.isDown 5 = false ∧
      n.state.keypad.isDown 7 = true ∧ m₀.Catches (m₀.trace (as ++ bs)) 3 m.state.pc := by
  intro m₀ as bs m n
  have h₀ : Reachable {} m₀ := .built _ _ _
  have hfresh : m₀.processor.mode = .running := rfl
  have hstopped : m.phase ≠ .running := by decide +kernel
  have hidle : ∀ b ∈ bs, b.isIdle = true := by decide
  have hmode : m.processor.mode = .awaitingKey 3 := by decide +kernel
  obtain ⟨⟨hprocessor, hphase⟩, hstep, _, _, hdown, hwait⟩ :=
    idle_changes_keys h₀ hfresh hstopped hidle
  obtain ⟨_, hcatches⟩ := hwait 3 hmode
  refine ⟨h₀, hfresh, hstopped, hidle, hmode, hprocessor, hphase, ?_, ?_, ?_, hcatches⟩
  · rw [hstep]
  · rw [hdown]
    rfl
  · rw [hdown]
    rfl

end Machine

end Chip8
