import Chip8.Proofs.Instruction.Repeat
import Chip8.Proofs.Machine.Idle
import Chip8.Proofs.Machine.Interleaving
import Chip8.Proofs.Processor.Retry

set_option autoImplicit false

/-! # Keys now or later

While a machine runs, the first key that goes down ends a wait for a key at once, and the keys after
it come upon a processor that waits no longer. While it does not run, the same key is kept through
all the keys after it, and the next step takes it. Both ways lead to the same machine, but for the
timers, which this step may let count down (`keys_now_or_later`).

In between the two machines differ. What relates them is that the one that runs is always what the
other would be if its wait were resolved (`Defers`).
-/

namespace Chip8

/-! ## A processor that resolves later -/

namespace Processor

variable {τ : Type}

/-- A key that was set before a wait is resolved may be set after it, where it is resolved at once:
a key that was caught stays so, and after the wait none is caught. -/
theorem resolve_setKey (p : Processor τ) (key : Key) (pressed : Bool) :
    (p.setKey key pressed false).resolve.2 = p.resolve.2.setKey key pressed true := by
  rcases p.resolve_cases with h | ⟨x, k, hx, hk, h⟩
  · rw [h]
    rfl
  · have hx' : (p.setKey key pressed false).mode = .awaitingKey x := hx
    have hk' : (p.setKey key pressed false).state.keypad.latch = .caught k := by
      show (p.state.keypad.set key pressed).latch = .caught k
      unfold Keypad.set
      rw [hk]
      split <;> rfl
    have hidle : (p.completed x k).state.keypad.set key pressed =
        { p.state.keypad.set key pressed with latch := .idle } := by
      unfold Keypad.set
      congr 1
      show (if _ then Latch.idle else .idle) = _
      split <;> rfl
    rw [h, resolve_of_caught hx' hk']
    calc (p.setKey key pressed false).completed x k
        = (p.completed x k).setKey key pressed false := by
          unfold setKey
          rw [hidle]
          rfl
      _ = (p.completed x k).setKey key pressed true := by
          exact (resolve_of_running (p := (p.completed x k).setKey key pressed false) rfl).symm

variable [Sub τ] [LT τ] [DecidableLT τ]

/-- The timers tick alike before a wait is resolved and after it. -/
theorem resolve_tick (p : Processor τ) (now : τ) :
    (p.tick now).resolve.2 = p.resolve.2.tick now := by
  rcases p.resolve_cases with h | ⟨x, k, hx, hk, h⟩
  · rw [h]
    cases hm : p.mode with
    | running => exact resolve_of_running ((p.mode_tick now).trans hm)
    | awaitingKey x =>
        refine resolve_of_not_caught ?_
        intro k hk
        rw [keypad_tick] at hk
        -- a key that was caught would have ended the wait
        have hmode := congrArg Processor.mode ((resolve_of_caught hm hk).symm.trans h)
        rw [hm] at hmode
        cases hmode
  · have hx' : (p.tick now).mode = .awaitingKey x := (p.mode_tick now).trans hx
    have hk' : (p.tick now).state.keypad.latch = .caught k := by
      rw [keypad_tick]
      exact hk
    rw [h, resolve_of_caught hx' hk']
    show _ = if now - p.lastTick < p.period then _ else _
    unfold tick
    split <;> rfl

end Processor

namespace Machine

variable {τ : Type} [Sub τ] [LT τ] [DecidableLT τ]

/-! ## The two machines side by side -/

/-- The machine `n` does not run and waits for a key for `Vx`. The machine `r` runs, and is where
`n` would get if its wait were resolved. -/
structure Defers (x : Reg) (n r : Machine τ) : Prop where
  stopped : n.isRunning = false
  running : r.isRunning = true
  mode : n.processor.mode = .awaitingKey x
  processor : r.processor = n.processor.resolve.2

/-- A key keeps them so. -/
theorem Defers.act {x : Reg} {n r : Machine τ} (h : Defers x n r) (given : Value) (pressed : Bool) :
    Defers x (n.act (.setKey given pressed)) (r.act (.setKey given pressed)) := by
  show Defers x (n.setKeyNamed given pressed).after (r.setKeyNamed given pressed).after
  unfold setKeyNamed
  cases Key.ofValue given with
  | error e => exact h
  | ok key =>
      have hn : (n.setKey key pressed).processor = n.processor.setKey key pressed false := by
        rw [← h.stopped]
        rfl
      have hr : (r.setKey key pressed).processor = r.processor.setKey key pressed true := by
        rw [← h.running]
        rfl
      refine ⟨h.stopped, h.running, ?_, ?_⟩
      · show (n.setKey key pressed).processor.mode = _
        rw [hn]
        exact h.mode
      · show (r.setKey key pressed).processor = (n.setKey key pressed).processor.resolve.2
        rw [hn, hr, Processor.resolve_setKey, h.processor]

theorem Defers.acts {x : Reg} {n r : Machine τ} (h : Defers x n r) (ks : List (Value × Bool)) :
    Defers x (n.acts (keyActions ks)) (r.acts (keyActions ks)) := by
  induction ks generalizing n r with
  | nil => exact h
  | cons k ks ih =>
      rw [keyActions_cons, acts_cons, acts_cons]
      exact ih (h.act k.1 k.2)

/-- The next step catches up, and lets the timers count down. -/
theorem Defers.step {x : Reg} {n r : Machine τ} (h : Defers x n r) (now : τ) :
    (n.start.step now).answer = .ok (some ((r.processor.tick now).snapshot none)) ∧
      (n.start.step now).after = r.mapProcessor (·.tick now) := by
  have hmode : (n.processor.tick now).mode = .awaitingKey x :=
    (n.processor.mode_tick now).trans h.mode
  have hstep : n.start.processor.step now =
      { answer := .ok ((r.processor.tick now).snapshot none), after := r.processor.tick now } := by
    show (n.processor.tick now).proceed = _
    rw [Processor.proceed_of_awaiting hmode, Processor.resolve_tick, h.processor]
  have hphase : r.phase = .running := beq_iff_eq.1 h.running
  have hafter : ({ n.start with processor := r.processor.tick now } : Machine τ) =
      r.mapProcessor (·.tick now) := by
    unfold start mapProcessor
    rw [hphase]
  rw [step_of_isRunning _ _ rfl, forceStep_of_ok _ _ (congrArg Outcome.answer hstep), hstep]
  exact ⟨rfl, hafter⟩

/-! ## The wait and the tick -/

section Tick

variable {m n : Machine τ} {x : Reg}

theorem Waits.tick {l : Latch} (h : Waits x l m n) (now : τ) :
    Waits x l m (n.mapProcessor (·.tick now)) where
  mode := (n.processor.mode_tick now).trans h.mode
  latch := (congrArg Keypad.latch (n.processor.keypad_tick now)).trans h.latch
  registers := (n.processor.registers_tick now).trans h.registers
  stack := (n.processor.stack_tick now).trans h.stack
  screen := (n.processor.screen_tick now).trans h.screen
  random := (n.processor.random_tick now).trans h.random
  count := (n.processor.count_tick now).trans h.count

theorem Completes.tick {key : Key} (h : Completes x key m n) (now : τ) :
    Completes x key m (n.mapProcessor (·.tick now)) where
  waiting := h.waiting
  mode := (n.processor.mode_tick now).trans h.mode
  latch := (congrArg Keypad.latch (n.processor.keypad_tick now)).trans h.latch
  registers := (n.processor.registers_tick now).trans h.registers
  memory := (n.processor.memory_tick now).trans h.memory
  stack := (n.processor.stack_tick now).trans h.stack
  screen := (n.processor.screen_tick now).trans h.screen
  random := (n.processor.random_tick now).trans h.random
  count := (n.processor.count_tick now).trans h.count

end Tick

/-! ## The main statement -/

/-- The settings that a host asks for; a value that names no key asks for none. -/
def settings (ks : List (Value × Bool)) : List (Key × Bool) :=
  ks.filterMap fun k => Key.setting? k.1 k.2

omit [Sub τ] [LT τ] [DecidableLT τ] in
theorem filterMap_keyActions (ks : List (Value × Bool)) :
    (keyActions ks : List (Action τ)).filterMap Action.setting? = settings ks := List.filterMap_map

/-- Setting keys is idle. -/
theorem idled_keyActions {m : Machine τ} (h : m.isRunning = false) (ks : List (Value × Bool)) :
    Idled (settings ks) m (m.acts (keyActions ks)) := by
  have hidle : ∀ a ∈ (keyActions ks : List (Action τ)), a.isIdle = true := by
    intro a ha
    obtain ⟨k, _, rfl⟩ := List.mem_map.1 ha
    rfl
  rw [← filterMap_keyActions]
  exact idled_acts h hidle

omit [Sub τ] [LT τ] [DecidableLT τ] in
/-- Whether a wait goes on or ends when it is resolved is up to the latch. -/
theorem resolved_of_latch {m n : Machine τ} {x : Reg} {k : Keypad}
    (hx : m.processor.mode = .awaitingKey x)
    (hn : n.processor = (m.processor.withKeypad k).resolve.2) :
    (k.latch = .waiting → Waits x .waiting m n) ∧
      ∀ key, k.latch = .caught key → Completes x key m n := by
  constructor
  · intro hk
    have hwaits : Waits x k.latch m n := by
      refine waits_of_processor k m.state.delay m.state.sound m.processor.lastTick hx ?_
      refine hn.trans (Processor.resolve_of_not_caught ?_)
      intro key hcaught
      cases hk.symm.trans hcaught
    rwa [hk] at hwaits
  · intro key hk
    exact completes_of_caught k m.state.delay m.state.sound m.processor.lastTick hx
      (hn.trans (Processor.resolve_of_caught hx hk))

/-- **Keys now or later.** Let a reachable machine wait for a key for `Vx`, with none caught. A host
sets keys, once while the machine runs (`a`), and once while it is stopped, whereupon it starts the
machine and lets it take one step (`b`). The step executes nothing, and the two machines are the
same but for the timers, which may have ticked in this step. If a key goes down, then the first one
has ended the wait of both. If none does, both wait as before. -/
theorem keys_now_or_later {c : Config} {m : Machine τ} (hm : Reachable c m) {x : Reg}
    (hx : m.processor.mode = .awaitingKey x) (hnone : m.state.keypad.pending? = none)
    (ks : List (Value × Bool)) (now : τ) :
    let a := m.acts (.start :: keyActions ks)
    let stopped := m.acts (.stop :: keyActions ks)
    let b := stopped.acts [.start, .step now]
    (m.isRunning = true → a = m.acts (keyActions ks)) ∧
    (∃ s, (stopped.start.step now).answer = .ok (some s) ∧ s.word = none) ∧
    b = a.mapProcessor (·.tick now) ∧
    (a.state.Agrees b.state ∧ b.processor.mode = a.processor.mode ∧
      b.processor.count = a.processor.count ∧ b.phase = a.phase) ∧
    (m.state.keypad.firstDown? (settings ks) = none →
      Waits x .waiting m a ∧ Waits x .waiting m b) ∧
    ∀ key, m.state.keypad.firstDown? (settings ks) = some key →
      Completes x key m a ∧ Completes x key m b := by
  intro a stopped b
  have hawaits : m.state.keypad.isAwaiting = true := hm.sound.isAwaiting hx
  have hlatch := Keypad.latch_eq_waiting hawaits hnone
  have hdefers : Defers x stopped a := by
    refine Defers.acts (n := m.stop) (r := m.start) ⟨rfl, rfl, hx, ?_⟩ ks
    refine (Processor.resolve_of_not_caught ?_).symm
    intro key hk
    cases hlatch.symm.trans hk
  obtain ⟨hanswer, hafter⟩ := hdefers.step now
  have hb : b = a.mapProcessor (·.tick now) := hafter
  refine ⟨?_, ⟨_, hanswer, rfl⟩, hb, ?_, ?_⟩
  · intro hrun
    have hphase : m.phase = .running := beq_iff_eq.1 hrun
    have hstart : m.start = m := by
      unfold start
      rw [← hphase]
    show m.start.acts (keyActions ks) = _
    rw [hstart]
  · rw [hb]
    exact ⟨Processor.agrees_tick a.processor now, a.processor.mode_tick now,
      a.processor.count_tick now, rfl⟩
  · -- the keypad of the stopped machine tells what has become of the wait
    let k := m.state.keypad.setAll (settings ks)
    have hstopped : stopped.processor = m.processor.withKeypad k :=
      (idled_keyActions (m := m.stop) rfl ks).processor
    have hpending : k.pending? = m.state.keypad.firstDown? (settings ks) := by
      rw [Keypad.pending?_setAll hawaits, hnone, Option.none_or]
    have hresolve : a.processor = (m.processor.withKeypad k).resolve.2 := by
      rw [← hstopped]
      exact hdefers.processor
    obtain ⟨hwaits, hcompletes⟩ := resolved_of_latch hx hresolve
    rw [hb]
    constructor
    · intro hfirst
      have hk : k.latch = .waiting := by
        refine Keypad.latch_eq_waiting ?_ (hpending.trans hfirst)
        rw [Keypad.isAwaiting_setAll, hawaits]
      exact ⟨hwaits hk, (hwaits hk).tick now⟩
    · intro key hfirst
      have hk : k.latch = .caught key := Keypad.pending?_eq_some_iff.1 (hpending.trans hfirst)
      exact ⟨hcompletes key hk, (hcompletes key hk).tick now⟩

/-- The program `F30A` waits. Key 5 goes down first, then key 9, 16 is no key, and key 5 is released
again. The step of the machine that was stopped lets the timers tick. A key that is released only
ends no wait. -/
theorem keys_now_or_later_at_wait :
    let m := (Config.machine {} (.ofSeed 0) 1 0 : Machine Nat).acts
      [.loadProgram [0xF3, 0x0A], .start, .step 0]
    let ks : List (Value × Bool) :=
      [(.int 5, true), (.int 9, true), (.int 16, true), (.int 5, false)]
    let a := m.acts (.start :: keyActions ks)
    let b := (m.acts (.stop :: keyActions ks)).acts [.start, .step 7]
    let b' := (m.acts (.stop :: keyActions [(.int 5, false)])).acts [.start, .step 7]
    Reachable {} m ∧ m.processor.mode = .awaitingKey 3 ∧ m.state.keypad.pending? = none ∧
      b = a.mapProcessor (·.tick 7) ∧ Completes 3 5 m a ∧ Completes 3 5 m b ∧
      Waits 3 .waiting m b' := by
  intro m ks a b b'
  have hm : Reachable {} m := (Reachable.built _ _ _).acts _
  obtain ⟨hmode, hnone, hfirst, hfirst'⟩ : m.processor.mode = .awaitingKey 3 ∧
      m.state.keypad.pending? = none ∧ m.state.keypad.firstDown? (settings ks) = some 5 ∧
      m.state.keypad.firstDown? (settings [(.int 5, false)]) = none := by decide +kernel
  obtain ⟨_, _, hb, _, _, hends⟩ := keys_now_or_later hm hmode hnone ks 7
  obtain ⟨_, _, _, _, hwaits, _⟩ := keys_now_or_later hm hmode hnone [(.int 5, false)] 7
  obtain ⟨ha, hb'⟩ := hends 5 hfirst
  exact ⟨hm, hmode, hnone, hb, ha, hb', (hwaits hfirst').2⟩

end Machine

end Chip8
