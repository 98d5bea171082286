import Chip8.Proofs.Machine.Clock
import Mathlib.Tactic.Positivity

set_option autoImplicit false

/-! # The timers from a start on

From the moment when a machine is built or reset (`StartedAt`), its timers follow the clock: they
tick at the configured rate and no faster, and not much later than they are due as long as the clock
is read often enough. A timer stands at the value that was put into it last, less the ticks since
then, or at zero (`timers_follow_clock`).
-/

namespace Chip8

/-- The time between two ticks of the timers, in seconds. -/
def Config.timerPeriod (c : Config) : ℚ := 1 / c.timerHz

namespace Machine

/-- The machine was built at the reading `T` of the clock, with the period that is configured, or it
was reset at this reading, after any actions. -/
inductive StartedAt (c : Config) (T : ℚ) : Machine ℚ → Prop where
  | built (random : Twister) : StartedAt c T (c.machine random c.timerPeriod T)
  | reset (random : Twister) (now : ℚ) (as : List (Action ℚ)) :
      StartedAt c T (((c.machine random c.timerPeriod now).acts as).reset T)

variable {c : Config} {T : ℚ} {m : Machine ℚ} {es : List (Event ℚ)}

theorem StartedAt.clock (h : StartedAt c T m) :
    m.processor.period = c.timerPeriod ∧ m.processor.lastTick = T ∧
      ∀ d, (m.state.timer d).value.toNat = 0 := by
  cases h with
  | built random => exact ⟨rfl, rfl, fun d => by cases d <;> rfl⟩
  | reset random now as =>
      rw [reset_acts]
      exact ⟨rfl, rfl, fun d => by cases d <;> rfl⟩

/-- **The timers follow the clock.** Let a machine be built or reset at the reading `T` of a clock
whose readings are rational numbers, and let any events but resets follow, such as those of any
actions but resets.

Every step lets the timers tick before it does anything else, or does not let them tick. Whatever
the readings are, `k` ticks take `k` periods at least, and the last reading lies less than a period
behind the last tick. If no reading is more than `g` ahead of the one before, less than a period and
`g` pass from one tick to the next. A timer stands at the value that was put into it last, less the
ticks since then, or at zero. The tone sounds as long as the sound timer stands above zero. -/
theorem timers_follow_clock (hz : 0 < c.timerHz) (hm : StartedAt c T m)
    (hreset : ∀ e ∈ es, e.isReset = false) :
    let n := m.after es
    let ticks := m.tickReadings es
    (∀ as, (∀ a ∈ as, a.resets = false) →
      m.acts as = m.after (m.trace as) ∧ ∀ e ∈ m.trace as, e.isReset = false) ∧
    (∀ now, n.TicksFirst now) ∧
    (n.processor.lastTick = ticks.getLastD T ∧
      ticks.length * c.timerPeriod ≤ ticks.getLastD T - T) ∧
    (readings es).getLastD T < ticks.getLastD T + c.timerPeriod ∧
    (∀ g, List.IsChain (fun a b => b - a ≤ g) (T :: readings es) →
      List.IsChain (fun a b => c.timerPeriod ≤ b - a ∧ b - a < c.timerPeriod + g)
        (T :: ticks)) ∧
    (∀ d, (Never (writesTimer d) m es → (n.state.timer d).value.toNat = 0) ∧
      ∀ pre e post v, es = pre ++ e :: post → (m.after pre).timerWrite? d e = some v →
        let written := m.after (pre ++ [e])
        Never (writesTimer d) written post →
          ((n.state.timer d).value.toNat : ℤ) =
            max 0 (v.toNat - (written.tickReadings post).length)) ∧
    (n.soundActive = true ↔ 0 < (n.state.timer .sound).value.toNat) := by
  intro n ticks
  obtain ⟨hperiod, hlast, hzero⟩ := hm.clock
  have hpos : 0 < m.processor.period := by
    rw [hperiod, Config.timerPeriod]
    positivity
  have hclock : n.processor.lastTick = ticks.getLastD T := by
    rw [← hlast]
    exact (clock_after hreset).2
  have hstart : T - m.processor.lastTick < m.processor.period := by
    rw [hlast, sub_self]
    exact hpos
  refine ⟨?_, fun now => n.ticksFirst now, ⟨hclock, ?_⟩, ?_, ?_, ?_, ?_⟩
  · intro as has
    exact ⟨acts_eq_after_trace m as, fun e he => isReset_of_mem_trace has he⟩
  · have hrate := length_mul_period_le (m := m) hreset
    rw [hperiod, hlast] at hrate
    rw [← hclock]
    exact hrate
  · have hlate := getLastD_readings_lt hpos hreset hstart
    rw [hperiod] at hlate
    rw [← hclock]
    exact sub_lt_iff_lt_add'.1 hlate
  · intro g hgaps
    have hticks := isChain_tickReadings hpos hreset hstart hgaps
    rw [hperiod, hlast] at hticks
    exact hticks
  · intro d
    constructor
    · intro hnever
      have hcount := toNat_timer_after hreset hnever
      rw [hzero d, Nat.zero_sub] at hcount
      exact hcount
    · intro pre e post v hes hv written hnever
      subst hes
      have hcount : (n.state.timer d).value.toNat =
          v.toNat - (written.tickReadings post).length :=
        toNat_timer_after_write hreset hv hnever
      omega
  · exact Timer.isActive_iff n.state.sound

/-- The program puts 5 into the sound timer, half a period after the start, and jumps to itself from
then on. Of the four steps the last two let the timers tick. -/
theorem timers_follow_clock_at_jump :
    let c : Config := {}
    let m : Machine ℚ := c.machine (.ofSeed 0) c.timerPeriod 10
    let pre : List (Event ℚ) := [.write [0x60, 0x05, 0xF0, 0x18, 0x12, 0x04], .start, .pulse 10]
    let post : List (Event ℚ) := [.pulse (10 + 1 / 60), .pulse (10 + 1 / 30)]
    let es := pre ++ .pulse (10 + 1 / 120) :: post
    let n := m.after es
    let ticks := m.tickReadings es
    0 < c.timerHz ∧ StartedAt c 10 m ∧ (∀ e ∈ es, e.isReset = false) ∧ ticks.length = 2 ∧
      ticks.length * c.timerPeriod ≤ ticks.getLastD 10 - 10 ∧
      List.IsChain (fun a b => b - a ≤ 1 / 60) (10 :: readings es) ∧
      List.IsChain (fun a b => c.timerPeriod ≤ b - a ∧ b - a < c.timerPeriod + 1 / 60)
        (10 :: ticks) ∧
      (m.after pre).timerWrite? .sound (.pulse (10 + 1 / 120)) = some 5 ∧
      ((n.state.timer .sound).value.toNat : ℤ) = max 0 (5 - 2) ∧ n.soundActive = true := by
  intro c m pre post es n ticks
  have hz : 0 < c.timerHz := by decide
  have hm : StartedAt c 10 m := .built _
  have hreset : ∀ e ∈ es, e.isReset = false := by decide
  have hgaps : List.IsChain (fun a b => b - a ≤ 1 / 60) (10 :: readings es) := by decide +kernel
  let written := m.after (pre ++ [.pulse (10 + 1 / 120)])
  obtain ⟨hcount, hrest, hwrite, hnever⟩ : ticks.length = 2 ∧
      (written.tickReadings post).length = 2 ∧
      (m.after pre).timerWrite? .sound (.pulse (10 + 1 / 120)) = some 5 ∧
      Never (writesTimer .sound) written post := by decide +kernel
  obtain ⟨_, _, ⟨_, hrate⟩, _, hchain, htimer, hsound⟩ := timers_follow_clock hz hm hreset
  have hvalue := (htimer .sound).2 pre _ post 5 rfl hwrite hnever
  rw [hrest] at hvalue
  have hactive : n.soundActive = true := by
    have hthree : ((n.state.timer .sound).value.toNat : ℤ) = 3 := hvalue
    have hpos : 0 < (n.state.timer .sound).value.toNat := by omega
    exact hsound.2 hpos
  exact ⟨hz, hm, hreset, hcount, hrate, hgaps, hchain _ hgaps, hwrite, hvalue, hactive⟩

end Machine

end Chip8
