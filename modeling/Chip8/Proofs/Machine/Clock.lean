import Chip8.Proofs.Machine.Reset
import Chip8.Proofs.Machine.Resolution
import Chip8.Proofs.Processor.Clock
import Mathlib.Algebra.Order.Field.Rat
import Mathlib.Tactic.Linarith
import Mathlib.Tactic.Ring

set_option autoImplicit false

/-! # The clock of the timers

A step lets the timers tick if their period has passed since they last did, be it a step that waits
for a key or one that fails. So whatever the clock does, `k` ticks take `k` periods at least
(`length_mul_period_le`). No reading is a period or more ahead of the last tick
(`getLastD_readings_lt`), and if the clock goes on by no more than `g` from one reading to the next,
then no tick is overdue by `g` (`isChain_tickReadings`). In between, a timer counts the ticks
(`toNat_timer_after`, `toNat_timer_after_write`).

The statements are about a clock whose readings are exact rational numbers.
-/

namespace Chip8

namespace Machine

variable {τ : Type}

/-- The reading of the clock that an event takes. -/
def Event.reading? : Event τ → Option τ
  | .pulse now => some now
  | _ => none

/-- The readings of the clock in the course of events. -/
def readings (es : List (Event τ)) : List τ := es.filterMap Event.reading?

/-- The value that an event puts into a timer. -/
def timerWrite? (d : TimerName) (m : Machine τ) : Event τ → Option UInt8
  | .pulse _ => m.processor.timerWrite? d
  | _ => none

/-- Whether an event puts a value into a timer. -/
def writesTimer (d : TimerName) (m : Machine τ) (e : Event τ) : Bool := (m.timerWrite? d e).isSome

variable [Sub τ] [LT τ] [DecidableLT τ]

/-- The reading at which an event lets the timers tick, if it does. -/
def tick? (m : Machine τ) : Event τ → Option τ
  | .pulse now => if now - m.processor.lastTick < m.processor.period then none else some now
  | _ => none

/-- The readings at which the timers tick in the course of events. -/
def tickReadings (m : Machine τ) : List (Event τ) → List τ
  | [] => []
  | e :: es => (m.tick? e).toList ++ (m.happen e).tickReadings es

/-! ## One event -/

section Event

variable {m : Machine τ} {e : Event τ}

theorem tick?_eq_some_iff {t : τ} :
    m.tick? e = some t ↔ e = .pulse t ∧ ¬ t - m.processor.lastTick < m.processor.period := by
  cases e with
  | pulse now =>
      show (if _ then none else some now) = some t ↔ _
      split
      · rename_i h
        constructor
        · intro hnone
          cases hnone
        · rintro ⟨hnow, ht⟩
          cases hnow
          exact absurd h ht
      · rename_i h
        constructor
        · intro ht
          cases ht
          exact ⟨rfl, h⟩
        · rintro ⟨hnow, _⟩
          cases hnow
          rfl
  | _ => exact ⟨nofun, fun h => nomatch h.1⟩

/-- The tick of a step, if the timers tick. -/
theorem tick_of_tick?_eq_none {now : τ} (h : m.tick? (.pulse now) = none) :
    m.processor.tick now = m.processor := by
  refine Processor.tick_of_early ?_
  by_contra hdue
  rw [tick?_eq_some_iff.2 ⟨rfl, hdue⟩] at h
  cases h

theorem tick_of_tick?_eq_some {now t : τ} (h : m.tick? (.pulse now) = some t) :
    m.processor.tick now = { m.processor with state := m.state.tickTimers, lastTick := t } := by
  obtain ⟨he, hdue⟩ := tick?_eq_some_iff.1 h
  cases he
  exact Processor.tick_of_due hdue

/-- An event that is neither a step nor a reset leaves the clock and the timers alone. -/
theorem sameClock_happen (hreset : e.isReset = false) (he : e.reading? = none) :
    Processor.SameClock m.processor (m.happen e).processor := by
  cases e with
  | start => exact .refl _
  | stop => exact .refl _
  | reset now => cases hreset
  | pulse now => cases he
  | write data =>
      show Processor.SameClock m.processor (m.loadProgram data).after.processor
      rcases m.loadProgram_cases data with h | ⟨memory, h⟩
      · rw [h]
        exact .refl _
      · rw [h]
        exact ⟨rfl, rfl, fun d => by cases d <;> rfl⟩
  | key k pressed => exact m.processor.sameClock_setKey k pressed m.isRunning

theorem lastTick_tick (m : Machine τ) (now : τ) :
    (m.processor.tick now).lastTick = (m.tick? (.pulse now)).getD m.processor.lastTick := by
  cases h : m.tick? (.pulse now) with
  | none => rw [tick_of_tick?_eq_none h]; rfl
  | some t => rw [tick_of_tick?_eq_some h]; rfl

theorem toNat_timer_tick (m : Machine τ) (now : τ) (d : TimerName) :
    ((m.processor.tick now).state.timer d).value.toNat =
      (m.state.timer d).value.toNat - (m.tick? (.pulse now)).toList.length := by
  cases h : m.tick? (.pulse now) with
  | none => rw [tick_of_tick?_eq_none h]; rfl
  | some t =>
      rw [tick_of_tick?_eq_some h]
      cases d with
      | delay => exact Timer.toNat_value_tick m.state.delay
      | sound => exact Timer.toNat_value_tick m.state.sound

/-- What an event leaves of the clock. -/
theorem clock_happen (hreset : e.isReset = false) :
    (m.happen e).processor.period = m.processor.period ∧
      (m.happen e).processor.lastTick = (m.tick? e).getD m.processor.lastTick := by
  cases e with
  | pulse now =>
      have hstep := m.processor.clock_step now .delay
      rw [m.lastTick_tick now] at hstep
      show (m.forceStep now).after.processor.period = _ ∧
        (m.forceStep now).after.processor.lastTick = _
      rw [processor_forceStep]
      exact ⟨hstep.1, hstep.2.1⟩
  | _ =>
      have hsame := sameClock_happen (m := m) hreset rfl
      exact ⟨hsame.period, hsame.lastTick⟩

/-- An event puts a value into a timer, or the timer counts its tick. -/
theorem toNat_timer_happen (hreset : e.isReset = false) (d : TimerName) :
    ((m.happen e).state.timer d).value.toNat =
      match m.timerWrite? d e with
      | some v => v.toNat
      | none => (m.state.timer d).value.toNat - (m.tick? e).toList.length := by
  cases e with
  | pulse now =>
      have hstep := (m.processor.clock_step now d).2.2
      show ((m.forceStep now).after.processor.state.timer d).value.toNat =
        match m.processor.timerWrite? d with
        | some v => v.toNat
        | none => _
      rw [processor_forceStep, hstep]
      cases m.processor.timerWrite? d with
      | some v => rfl
      | none => exact m.toNat_timer_tick now d
  | _ =>
      have hsame := sameClock_happen (m := m) hreset rfl
      exact congrArg (fun t : Timer => t.value.toNat) (hsame.timer d)

end Event

/-- At the reading `now` a step lets both timers tick, if they do, before it goes on. What it does
then leaves the clock alone, and changes a timer only by putting a value into it. -/
structure TicksFirst (m : Machine τ) (now : τ) : Prop where
  early : m.tick? (.pulse now) = none → m.processor.tick now = m.processor
  due : ∀ t, m.tick? (.pulse now) = some t → t = now ∧
    m.processor.tick now = { m.processor with state := m.state.tickTimers, lastTick := now }
  answer : (m.forceStep now).answer = (m.processor.tick now).proceed.answer
  after : (m.forceStep now).after.processor = (m.processor.tick now).proceed.after
  lastTick : (m.forceStep now).after.processor.lastTick = (m.processor.tick now).lastTick
  timer : ∀ d, (m.forceStep now).after.state.timer d =
    ((m.timerWrite? d (.pulse now)).map Timer.mk).getD ((m.processor.tick now).state.timer d)

theorem ticksFirst (m : Machine τ) (now : τ) : m.TicksFirst now where
  early := tick_of_tick?_eq_none
  due := by
    intro t ht
    obtain ⟨hnow, _⟩ := tick?_eq_some_iff.1 ht
    cases hnow
    exact ⟨rfl, tick_of_tick?_eq_some ht⟩
  answer := m.answer_forceStep now
  after := m.processor_forceStep now
  lastTick := by
    rw [processor_forceStep]
    exact (m.processor.clock_step now .delay).2.1
  timer := by
    intro d
    rw [state, processor_forceStep]
    exact (m.processor.clock_step now d).2.2

/-! ## Lists of events -/

section Events

variable {m : Machine τ} {e : Event τ} {es : List (Event τ)}

theorem tickReadings_of_none (h : m.tick? e = none) :
    m.tickReadings (e :: es) = (m.happen e).tickReadings es := by
  rw [tickReadings, h]
  rfl

theorem tickReadings_of_some {t : τ} (h : m.tick? e = some t) :
    m.tickReadings (e :: es) = t :: (m.happen e).tickReadings es := by
  rw [tickReadings, h]
  rfl

theorem clock_after (hreset : ∀ e ∈ es, e.isReset = false) :
    (m.after es).processor.period = m.processor.period ∧
      (m.after es).processor.lastTick = (m.tickReadings es).getLastD m.processor.lastTick := by
  induction es generalizing m with
  | nil => exact ⟨rfl, rfl⟩
  | cons e es ih =>
      obtain ⟨hperiod, hlast⟩ := clock_happen (m := m) (hreset e List.mem_cons_self)
      have hrest := ih (m := m.happen e) fun d hd => hreset d (List.mem_cons_of_mem e hd)
      rw [hperiod, hlast] at hrest
      rw [after_cons]
      cases ht : m.tick? e with
      | none =>
          rw [ht] at hrest
          rw [tickReadings_of_none ht]
          exact hrest
      | some t =>
          rw [ht] at hrest
          rw [tickReadings_of_some ht, List.getLastD_cons]
          exact hrest

/-- As long as no value is put into it, a timer counts the ticks down to zero. -/
theorem toNat_timer_after {d : TimerName} (hreset : ∀ e ∈ es, e.isReset = false)
    (hnever : Never (writesTimer d) m es) :
    ((m.after es).state.timer d).value.toNat =
      (m.state.timer d).value.toNat - (m.tickReadings es).length := by
  induction es generalizing m with
  | nil => rfl
  | cons e es ih =>
      obtain ⟨he, hrest⟩ := never_cons_iff.1 hnever
      have hnone : m.timerWrite? d e = none := by
        unfold writesTimer at he
        exact Option.not_isSome_iff_eq_none.1 (Bool.eq_false_iff.1 he)
      have htimer := toNat_timer_happen (m := m) (hreset e List.mem_cons_self) d
      rw [hnone] at htimer
      rw [after_cons, ih (fun d hd => hreset d (List.mem_cons_of_mem e hd)) hrest, htimer,
        tickReadings, List.length_append]
      exact Nat.sub_sub _ _ _

/-- A timer that a value was put into counts the ticks from this value on. -/
theorem toNat_timer_after_write {pre post : List (Event τ)} {d : TimerName} {v : UInt8}
    (hreset : ∀ f ∈ pre ++ e :: post, f.isReset = false)
    (hv : (m.after pre).timerWrite? d e = some v)
    (hnever : Never (writesTimer d) (m.after (pre ++ [e])) post) :
    ((m.after (pre ++ e :: post)).state.timer d).value.toNat =
      v.toNat - ((m.after (pre ++ [e])).tickReadings post).length := by
  have he : e.isReset = false := hreset e (List.mem_append_right _ List.mem_cons_self)
  have hpost : ∀ f ∈ post, f.isReset = false := by
    intro f hf
    exact hreset f (List.mem_append_right _ (List.mem_cons_of_mem e hf))
  have hvalue : ((m.after (pre ++ [e])).state.timer d).value.toNat = v.toNat := by
    have htimer := toNat_timer_happen (m := m.after pre) he d
    rw [hv] at htimer
    rw [after_concat]
    exact htimer
  rw [List.append_cons, after_append, toNat_timer_after hpost hnever, hvalue]

end Events

/-! ## The rate of the ticks -/

section Rate

variable {m : Machine ℚ} {es : List (Event ℚ)}

theorem period_le_of_tick? {e : Event ℚ} {t : ℚ} (h : m.tick? e = some t) :
    m.processor.period ≤ t - m.processor.lastTick :=
  not_lt.1 (tick?_eq_some_iff.1 h).2

/-- Whatever the clock does, `k` ticks take `k` periods at least. -/
theorem length_mul_period_le (hreset : ∀ e ∈ es, e.isReset = false) :
    (m.tickReadings es).length * m.processor.period ≤
      (m.after es).processor.lastTick - m.processor.lastTick := by
  -- each tick takes a period at least since the one before, and the differences add up
  induction es generalizing m with
  | nil => simp [tickReadings, after]
  | cons e es ih =>
      obtain ⟨hperiod, hlast⟩ := clock_happen (m := m) (hreset e List.mem_cons_self)
      have hrest := ih (m := m.happen e) fun d hd => hreset d (List.mem_cons_of_mem e hd)
      rw [hperiod, hlast] at hrest
      rw [after_cons]
      cases ht : m.tick? e with
      | none =>
          rw [ht] at hrest
          rw [tickReadings_of_none ht]
          exact hrest
      | some t =>
          rw [ht, Option.getD_some] at hrest
          have hdue := period_le_of_tick? ht
          rw [tickReadings_of_some ht, List.length_cons, Nat.cast_succ, add_mul, one_mul]
          linarith

/-- The reading that an event takes, or else the one before, lies less than a period behind the last
tick: the timers would have ticked otherwise. -/
theorem reading_lt_happen {e : Event ℚ} {r : ℚ} (hpos : 0 < m.processor.period)
    (hreset : e.isReset = false) (hr : r - m.processor.lastTick < m.processor.period) :
    e.reading?.getD r - (m.happen e).processor.lastTick < m.processor.period := by
  rw [(clock_happen hreset).2]
  cases e with
  | pulse now =>
      show now - (m.tick? (.pulse now)).getD m.processor.lastTick < m.processor.period
      cases ht : m.tick? (.pulse now) with
      | none =>
          by_contra hdue
          rw [tick?_eq_some_iff.2 ⟨rfl, hdue⟩] at ht
          cases ht
      | some t =>
          obtain ⟨hnow, _⟩ := tick?_eq_some_iff.1 ht
          cases hnow
          rw [Option.getD_some, sub_self]
          exact hpos
  | _ => exact hr

theorem getLastD_readings_cons {e : Event ℚ} {r : ℚ} :
    (readings (e :: es)).getLastD r = (readings es).getLastD (e.reading?.getD r) := by
  unfold readings
  cases hreading : e.reading? with
  | none =>
      rw [List.filterMap_cons_none hreading]
      rfl
  | some now =>
      rw [List.filterMap_cons_some hreading, List.getLastD_cons]
      rfl

/-- The last reading lies less than a period behind the last tick. -/
theorem getLastD_readings_lt {r : ℚ} (hpos : 0 < m.processor.period)
    (hreset : ∀ e ∈ es, e.isReset = false) (hr : r - m.processor.lastTick < m.processor.period) :
    (readings es).getLastD r - (m.after es).processor.lastTick < m.processor.period := by
  induction es generalizing m r with
  | nil => exact hr
  | cons e es ih =>
      have he := hreset e List.mem_cons_self
      have hperiod := (clock_happen (m := m) he).1
      have hnext := reading_lt_happen hpos he hr
      rw [← hperiod] at hpos hnext ⊢
      rw [after_cons, getLastD_readings_cons]
      exact ih hpos (fun d hd => hreset d (List.mem_cons_of_mem e hd)) hnext

/-- If the clock goes on by no more than `g` from one reading to the next, then no tick comes `g` or
more after it was due. -/
theorem isChain_tickReadings {g r : ℚ} (hpos : 0 < m.processor.period)
    (hreset : ∀ e ∈ es, e.isReset = false) (hr : r - m.processor.lastTick < m.processor.period)
    (hgaps : List.IsChain (fun a b => b - a ≤ g) (r :: readings es)) :
    List.IsChain (fun a b => m.processor.period ≤ b - a ∧ b - a < m.processor.period + g)
      (m.processor.lastTick :: m.tickReadings es) := by
  -- the invariant is that the last reading `r` lies less than a period behind the last tick
  induction es generalizing m r with
  | nil => exact .singleton _
  | cons e es ih =>
      have he := hreset e List.mem_cons_self
      obtain ⟨hperiod, hlast⟩ := clock_happen (m := m) he
      have hnext := reading_lt_happen hpos he hr
      have hrest := ih (m := m.happen e) (r := e.reading?.getD r) (by rw [hperiod]; exact hpos)
        (fun d hd => hreset d (List.mem_cons_of_mem e hd)) (by rw [hperiod]; exact hnext)
      rw [hperiod, hlast] at hrest
      cases ht : m.tick? e with
      | none =>
          rw [ht] at hrest
          rw [tickReadings_of_none ht]
          refine hrest ?_
          cases e with
          | pulse now => exact (List.isChain_cons_cons.1 hgaps).2
          | _ => exact hgaps
      | some t =>
          obtain ⟨rfl, _⟩ := tick?_eq_some_iff.1 ht
          obtain ⟨hgap, hgaps⟩ := List.isChain_cons_cons.1 hgaps
          rw [ht] at hrest
          rw [tickReadings_of_some ht]
          refine .cons_cons ⟨period_le_of_tick? ht, ?_⟩ (hrest hgaps)
          calc t - m.processor.lastTick
              = (r - m.processor.lastTick) + (t - r) := by ring
            _ < m.processor.period + g := by linarith

end Rate

end Machine

end Chip8
