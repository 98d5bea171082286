import Chip8.Proofs.Processor.Step

set_option autoImplicit false

/-! # What a step does to the clock and the timers

A step lets both timers tick, if the clock says so, before it does anything else (`tick_of_due`,
`tick_of_early`). What it does behind the tick leaves the clock alone (`sameClock_of_proceeds`), and
of the timers it changes only the one that the instruction puts a value into, even if it fails in
the end (`timer_of_proceeds`).
-/

namespace Chip8

/-- Which of the two timers. -/
inductive TimerName where
  | delay
  | sound
deriving DecidableEq

/-- The timer with a name. -/
def State.timer (s : State) : TimerName → Timer
  | .delay => s.delay
  | .sound => s.sound

namespace Instruction

/-- The value that an instruction puts into a timer. -/
def timerWrite? (i : Instruction) (s : State) (d : TimerName) : Option UInt8 :=
  match i, d with
  | setDelay x, .delay => some (s.get x)
  | setSound x, .sound => some (s.get x)
  | _, _ => none

/-- An instruction that fails puts no value into a timer. -/
theorem timerWrite?_of_error {i : Instruction} {s : State} {e : Fault}
    (h : i.execute s.advance = .error e) (d : TimerName) : i.timerWrite? s d = none := by
  cases i with
  | setDelay x => cases h
  | setSound x => cases h
  | _ => rfl

theorem timer_of_execute {i : Instruction} {s t : State} (h : i.execute s.advance = .ok t)
    (d : TimerName) : t.timer d = ((i.timerWrite? s d).map Timer.mk).getD (s.timer d) := by
  have hset (r : Timer) (b : UInt8) : r.set b.toNat = ⟨b⟩ := by
    rw [Timer.set, clampByte_ofNat_toNat]
  have heffect := effect_of_execute h
  cases d with
  | delay =>
      refine heffect.delay.trans ?_
      cases i with
      | setDelay x => exact hset s.delay _
      | _ => rfl
  | sound =>
      refine heffect.sound.trans ?_
      cases i with
      | setSound x => exact hset s.sound _
      | _ => rfl

end Instruction

namespace Processor

variable {τ : Type}

/-- The value that the next step puts into a timer. -/
def timerWrite? (p : Processor τ) (d : TimerName) : Option UInt8 :=
  match p.mode with
  | .awaitingKey _ => none
  | .running =>
    match p.state.fetch with
    | .error _ => none
    | .ok w => (Instruction.decode w).timerWrite? p.state d

/-- The processor `q` has the timers of `p` and has last let them tick when `p` did. -/
structure SameClock (p q : Processor τ) : Prop where
  period : q.period = p.period
  lastTick : q.lastTick = p.lastTick
  timer : ∀ d, q.state.timer d = p.state.timer d

theorem SameClock.refl (p : Processor τ) : SameClock p p := ⟨rfl, rfl, fun _ => rfl⟩

theorem sameClock_resolve (p : Processor τ) : SameClock p p.resolve.2 := by
  rcases p.resolve_cases with h | ⟨x, key, _, _, h⟩
  · rw [h]
    exact .refl p
  · rw [h]
    exact ⟨rfl, rfl, fun d => by cases d <;> rfl⟩

theorem sameClock_setKey (p : Processor τ) (key : Key) (pressed resolving : Bool) :
    SameClock p (p.setKey key pressed resolving) := by
  have hset : SameClock p (p.setKey key pressed false) := ⟨rfl, rfl, fun d => by cases d <;> rfl⟩
  cases resolving with
  | false => exact hset
  | true =>
      have hresolve := sameClock_resolve (p.setKey key pressed false)
      exact ⟨hresolve.period.trans hset.period, hresolve.lastTick.trans hset.lastTick,
        fun d => (hresolve.timer d).trans (hset.timer d)⟩

section Proceeds

variable {p : Processor τ} {o : Outcome (Processor τ) Snapshot}

/-- Behind the tick a step leaves the clock alone. -/
theorem clock_of_proceeds (ho : Proceeds p o) :
    o.after.period = p.period ∧ o.after.lastTick = p.lastTick := by
  cases ho with
  | waits hx => exact ⟨p.sameClock_resolve.period, p.sameClock_resolve.lastTick⟩
  | unfetched hm hf => exact ⟨rfl, rfl⟩
  | refused hm hf he => exact ⟨rfl, rfl⟩
  | overrun hm hf he hpc => exact ⟨rfl, rfl⟩
  | executes hm hf he hpc => exact ⟨rfl, rfl⟩

/-- Behind the tick a step changes a timer only if it puts a value into it. -/
theorem timer_of_proceeds (ho : Proceeds p o) (d : TimerName) :
    o.after.state.timer d = ((p.timerWrite? d).map Timer.mk).getD (p.state.timer d) := by
  unfold timerWrite?
  cases ho with
  | waits hx =>
      rw [hx]
      exact p.sameClock_resolve.timer d
  | unfetched hm hf =>
      rw [hm, hf]
      rfl
  | refused hm hf he =>
      rw [hm, hf]
      dsimp only
      rw [Instruction.timerWrite?_of_error he]
      rfl
  | overrun hm hf he hpc =>
      -- the instruction has had its effect on the timers, although the step fails
      have htimer := Instruction.timer_of_execute he d
      rw [hm, hf]
      exact Eq.trans (by cases d <;> rfl) htimer
  | executes hm hf he hpc =>
      rw [hm, hf]
      exact Instruction.timer_of_execute he d

end Proceeds

/-! ## The tick -/

section Tick

variable [Sub τ] [LT τ] [DecidableLT τ] {p : Processor τ} {now : τ}

theorem tick_of_early (h : now - p.lastTick < p.period) : p.tick now = p := if_pos h

theorem tick_of_due (h : ¬ now - p.lastTick < p.period) :
    p.tick now = { p with state := p.state.tickTimers, lastTick := now } := if_neg h

/-- A tick does not change what the step puts into a timer behind it. -/
theorem timerWrite?_tick (p : Processor τ) (now : τ) (d : TimerName) :
    (p.tick now).timerWrite? d = p.timerWrite? d := by
  have hget (i : Instruction) : i.timerWrite? (p.tick now).state d = i.timerWrite? p.state d := by
    unfold Instruction.timerWrite? State.get
    rw [registers_tick]
  unfold timerWrite?
  rw [mode_tick, fetch_tick]
  simp only [hget]

/-- What a step leaves of the clock and the timers. -/
theorem clock_step (p : Processor τ) (now : τ) (d : TimerName) :
    (p.step now).after.period = p.period ∧
      (p.step now).after.lastTick = (p.tick now).lastTick ∧
      (p.step now).after.state.timer d =
        ((p.timerWrite? d).map Timer.mk).getD ((p.tick now).state.timer d) := by
  have hproceeds := proceeds (p.tick now)
  have hclock := clock_of_proceeds hproceeds
  have htimer := timer_of_proceeds hproceeds d
  rw [period_tick] at hclock
  rw [timerWrite?_tick] at htimer
  exact ⟨hclock.1, hclock.2, htimer⟩

end Tick

end Processor

end Chip8
