import Chip8.Proofs.Machine.Wait

set_option autoImplicit false

/-! # A wait ends once, with the first key

From the step that begins a wait for a key to the end of the wait, a machine goes through two
stages. In the first no key has gone down yet: whatever happens, the registers stay as they are.
The second begins with the first key that goes down, and its number is what the wait ends with. A
machine that runs then ends the wait at once. Otherwise the wait lasts until something *attends* to
it, that is a step, or any key event while the machine runs; keys that go down in between do not
count.

The main statement (`wait_ends_once`) follows a machine through all lists of events without a
reset, and so through all interleavings of what a host does.
-/

namespace Chip8

namespace Machine

variable {τ : Type}

/-- Whether an event is a key that goes from up to down. -/
def presses (m : Machine τ) : Event τ → Bool
  | .key key pressed => m.state.keypad.goesDown key pressed
  | _ => false

/-- Whether an event ends a wait if a key was caught. -/
def attends (m : Machine τ) : Event τ → Bool
  | .pulse _ => true
  | .key _ _ => m.isRunning
  | _ => false

/-- The latch of the keypad when an event has reached it, before a key is taken. -/
def latchAfter (m : Machine τ) : Event τ → Latch
  | .key key pressed => (m.state.keypad.set key pressed).latch
  | _ => m.state.keypad.latch

/-- The machine `n` waits for a key for `Vx`, and no instruction was executed since it was `m`. -/
structure Waits (x : Reg) (l : Latch) (m n : Machine τ) : Prop where
  mode : n.processor.mode = .awaitingKey x
  latch : n.state.keypad.latch = l
  registers : n.state.registers = m.state.registers
  stack : n.state.stack = m.state.stack
  screen : n.state.screen = m.state.screen
  random : n.state.random = m.state.random
  count : n.processor.count = m.processor.count

theorem Waits.trans {x y : Reg} {l l' : Latch} {m n k : Machine τ} (h : Waits x l m n)
    (h' : Waits y l' n k) : Waits y l' m k :=
  ⟨h'.mode, h'.latch, h'.registers.trans h.registers, h'.stack.trans h.stack,
    h'.screen.trans h.screen, h'.random.trans h.random, h'.count.trans h.count⟩

theorem waits_of_processor {m n : Machine τ} {x : Reg} (keypad : Keypad) (delay sound : Timer)
    (lastTick : τ) (hx : m.processor.mode = .awaitingKey x)
    (hn : n.processor =
      { m.processor with state := { m.state with keypad, delay, sound }, lastTick }) :
    Waits x keypad.latch m n := by
  obtain ⟨processor, phase⟩ := n
  change processor = _ at hn
  subst hn
  exact ⟨hx, rfl, rfl, rfl, rfl, rfl, rfl⟩

/-! ## The latch -/

/-- A key that was caught stays caught. -/
theorem latchAfter_of_caught {m : Machine τ} {key : Key}
    (h : m.state.keypad.latch = .caught key) (e : Event τ) : m.latchAfter e = .caught key := by
  cases e with
  | key k pressed =>
      show (m.state.keypad.set k pressed).latch = _
      unfold Keypad.set
      rw [h]
      split <;> rfl
  | _ => exact h

/-- Only a key that goes down is caught. -/
theorem latchAfter_of_not_presses {m : Machine τ} {e : Event τ} (h : m.presses e = false) :
    m.latchAfter e = m.state.keypad.latch := by
  cases e with
  | key k pressed =>
      change m.state.keypad.goesDown k pressed = false at h
      show (m.state.keypad.set k pressed).latch = _
      unfold Keypad.set
      rw [h]
      rfl
  | _ => rfl

theorem latchAfter_of_presses {m : Machine τ} {key : Key}
    (hl : m.state.keypad.latch = .waiting) (hup : m.state.keypad.isDown key = false) :
    m.latchAfter (.key key true) = .caught key := by
  have hdown : m.state.keypad.goesDown key true = true := by
    unfold Keypad.goesDown
    rw [hup]
    rfl
  show (m.state.keypad.set key true).latch = _
  unfold Keypad.set
  rw [hdown, hl]
  rfl

variable [Sub τ] [LT τ] [DecidableLT τ]

/-! ## One event -/

section Event

variable {m : Machine τ} {e : Event τ} {x : Reg}

/-- A wait ends when something attends to it and a key was caught. -/
theorem completes_happen {key : Key} (hx : m.processor.mode = .awaitingKey x)
    (hattends : m.attends e = true) (hk : m.latchAfter e = .caught key) :
    Completes x key m (m.happen e) := by
  cases e with
  | pulse now => exact completes_pulse now hx hk
  | key k pressed => exact completes_key hx hattends hk
  | _ => cases hattends

/-- Otherwise it goes on. -/
theorem waits_happen (hx : m.processor.mode = .awaitingKey x) (hreset : e.isReset = false)
    (hk : m.attends e = true → ∀ key, m.latchAfter e ≠ .caught key) :
    Waits x (m.latchAfter e) m (m.happen e) := by
  cases e with
  | start => exact ⟨hx, rfl, rfl, rfl, rfl, rfl, rfl⟩
  | stop => exact ⟨hx, rfl, rfl, rfl, rfl, rfl, rfl⟩
  | reset now => cases hreset
  | write data =>
      rcases m.loadProgram_cases data with hm | ⟨memory, hm⟩
      · show Waits x _ m (m.loadProgram data).after
        rw [hm]
        exact ⟨hx, rfl, rfl, rfl, rfl, rfl, rfl⟩
      · show Waits x _ m (m.loadProgram data).after
        rw [hm]
        exact ⟨hx, rfl, rfl, rfl, rfl, rfl, rfl⟩
  | pulse now =>
      obtain ⟨delay, sound, lastTick, htick⟩ := m.processor.exists_tick now
      have hmode : (m.processor.tick now).mode = .awaitingKey x := by
        rw [Processor.mode_tick, hx]
      have hlatch : ∀ key, (m.processor.tick now).state.keypad.latch ≠ .caught key := by
        rw [Processor.keypad_tick]
        exact hk rfl
      refine waits_of_processor m.state.keypad delay sound lastTick hx ?_
      show (m.forceStep now).after.processor = _
      rw [processor_forceStep, Processor.step, Processor.proceed_of_awaiting hmode]
      exact (Processor.resolve_of_not_caught hlatch).trans htick
  | key k pressed =>
      refine waits_of_processor (m.state.keypad.set k pressed) m.state.delay m.state.sound
        m.processor.lastTick hx ?_
      show m.processor.setKey k pressed m.isRunning = m.processor.setKey k pressed false
      cases hrun : m.isRunning with
      | false => rfl
      | true => exact Processor.resolve_of_not_caught (hk hrun)

/-- A step of a machine that waits executes nothing. -/
theorem answer_of_awaiting (hx : m.processor.mode = .awaitingKey x) (now : τ) :
    (m.forceStep now).answer =
      .ok ((m.happen (.pulse now)).processor.snapshot none) := by
  have hmode : (m.processor.tick now).mode = .awaitingKey x := by
    rw [Processor.mode_tick, hx]
  show _ = Except.ok ((m.forceStep now).after.processor.snapshot none)
  rw [answer_forceStep, processor_forceStep, Processor.step, Processor.proceed_of_awaiting hmode]

end Event

/-! ## Lists of events -/

/-- A wait goes on through a list of events if the test that none of them passes tells, as long as
the latch is `l`, which events leave it so and do not end the wait. -/
theorem waits_after {test : Machine τ → Event τ → Bool} {l : Latch}
    (htest : ∀ (n : Machine τ) e, n.state.keypad.latch = l → test n e = false →
      n.latchAfter e = l ∧ (n.attends e = true → ∀ key, l ≠ .caught key))
    {m : Machine τ} {x : Reg} {es : List (Event τ)} (hx : m.processor.mode = .awaitingKey x)
    (hl : m.state.keypad.latch = l) (hreset : ∀ e ∈ es, e.isReset = false)
    (hnever : Never test m es) : Waits x l m (m.after es) := by
  -- the invariant is that the machine waits and that its latch is still `l`
  induction es generalizing m with
  | nil => exact ⟨hx, hl, rfl, rfl, rfl, rfl, rfl⟩
  | cons e es ih =>
      obtain ⟨he, hrest⟩ := never_cons_iff.1 hnever
      obtain ⟨hlatch, hattends⟩ := htest m e hl he
      have hone := waits_happen hx (hreset e List.mem_cons_self) (by rwa [hlatch])
      rw [hlatch] at hone
      exact hone.trans (ih hone.mode hone.latch
        (fun d hd => hreset d (List.mem_cons_of_mem e hd)) hrest)

/-- Until a key goes down, the wait goes on. -/
theorem waits_after_of_never_presses {m : Machine τ} {x : Reg} {es : List (Event τ)}
    (hx : m.processor.mode = .awaitingKey x) (hl : m.state.keypad.latch = .waiting)
    (hreset : ∀ e ∈ es, e.isReset = false) (hnever : Never presses m es) :
    Waits x .waiting m (m.after es) := by
  refine waits_after ?_ hx hl hreset hnever
  intro n e hn he
  exact ⟨(latchAfter_of_not_presses he).trans hn, fun _ key => nofun⟩

/-- Until something attends to it, the wait goes on, and the key that was caught stays the same. -/
theorem waits_after_of_never_attends {m : Machine τ} {x : Reg} {key : Key} {es : List (Event τ)}
    (hx : m.processor.mode = .awaitingKey x) (hl : m.state.keypad.latch = .caught key)
    (hreset : ∀ e ∈ es, e.isReset = false) (hnever : Never attends m es) :
    Waits x (.caught key) m (m.after es) := by
  refine waits_after ?_ hx hl hreset hnever
  intro n e hn he
  refine ⟨latchAfter_of_caught hn e, fun h => ?_⟩
  rw [he] at h
  cases h

/-! ## Actions without a reset -/

theorem isReset_of_mem_runEvents {clock : Nat → τ} {k count : Nat} {m : Machine τ} {e : Event τ}
    (h : e ∈ runEvents clock k m count) : e.isReset = false := by
  induction count generalizing k m with
  | zero => cases h
  | succ count ih =>
      rw [runEvents] at h
      split at h
      · cases h with
        | head => rfl
        | tail _ h =>
            split at h
            · cases h
            · exact ih h
      · cases h

theorem isReset_of_mem_events {m : Machine τ} {a : Action τ} (ha : a.resets = false) {e : Event τ}
    (h : e ∈ m.events a) : e.isReset = false := by
  cases a with
  | reset now => cases ha
  | loadImage now data => cases ha
  | run clock count => exact isReset_of_mem_runEvents h
  | step now =>
      rw [events] at h
      split at h
      · rw [List.mem_singleton.1 h]
        rfl
      · cases h
  | setKey given pressed =>
      rw [events] at h
      split at h
      · cases h
      · rw [List.mem_singleton.1 h]
        rfl
  | start => rw [List.mem_singleton.1 h]; rfl
  | stop => rw [List.mem_singleton.1 h]; rfl
  | forceStep now => rw [List.mem_singleton.1 h]; rfl
  | loadProgram data => rw [List.mem_singleton.1 h]; rfl

/-- Actions that do not reset a machine are events that do not. -/
theorem isReset_of_mem_trace {m : Machine τ} {as : List (Action τ)}
    (has : ∀ a ∈ as, a.resets = false) {e : Event τ} (h : e ∈ m.trace as) : e.isReset = false := by
  induction as generalizing m with
  | nil => cases h
  | cons a as ih =>
      rw [trace, List.mem_append] at h
      rcases h with h | h
      · exact isReset_of_mem_events (has a List.mem_cons_self) h
      · exact ih (fun b hb => has b (List.mem_cons_of_mem a hb)) h

/-! ## From the beginning of a wait to its end -/

/-- A wait for a key leaves the registers as they were: the program counter is put back to it. -/
theorem registers_jump_back {s : State} (hpc : 0 ≤ s.pc ∧ s.pc ≤ 0xFFE) :
    s.advance.registers.jump (s.advance.pc - Instruction.size) = s.registers := by
  have hback : (s.pc + 2 - 2) % 0x1000 = s.pc := by omega
  show { s.registers with pc := (s.pc + 2 - 2) % 0x1000 } = s.registers
  rw [hback]
  rfl

/-- What the step leaves that begins a wait. -/
theorem waits_of_begins {m : Machine τ} {x : Reg} (hb : m.Begins x) (now : τ) :
    (m.happen (.pulse now)).processor.mode = .awaitingKey x ∧
      (m.happen (.pulse now)).state.keypad.latch = .waiting ∧
      (m.happen (.pulse now)).state.registers = m.state.registers := by
  obtain ⟨hmode, w, hf, hw⟩ := hb
  have hpc := State.exists_fetch_iff.1 ⟨w, hf⟩
  have hx := Instruction.x_of_decode_eq_awaitKey hw
  let p := m.processor.tick now
  let t : State := { p.state.advance with
    keypad := p.state.keypad.await
    registers := p.state.advance.registers.jump (p.state.advance.pc - Instruction.size) }
  have hpc' : p.state.pc = m.state.pc := Processor.pc_tick m.processor now
  have hregisters : t.registers = m.state.registers :=
    (registers_jump_back (by omega)).trans (Processor.registers_tick m.processor now)
  have hexecute : (Instruction.decode w).execute p.state.advance = .ok t := by
    rw [hw]
    rfl
  have hlimit : t.pc ≤ 0xFFF := by
    have : t.pc = m.state.pc := congrArg Registers.pc hregisters
    omega
  -- the wait has put the program counter back, so that the step cannot run off the memory
  have hproceed := Processor.proceed_eq_of_proceeds (.executes
    ((Processor.mode_tick _ now).trans hmode) ((Processor.fetch_tick _ now).trans hf) hexecute
    hlimit)
  have hafter : (m.happen (.pulse now)).processor = p.executed w t := by
    show (m.forceStep now).after.processor = _
    rw [processor_forceStep, Processor.step, hproceed]
  refine ⟨?_, ?_, ?_⟩
  · rw [hafter, hx]
    rfl
  · rw [state, hafter]
    rfl
  · rw [state, hafter]
    exact hregisters

/-- The wait of `n` has ended with a key in `n'`. It has ended for good: whenever the machine waits
again, a later step has begun that wait. -/
structure Ends (x : Reg) (key : Key) (n n' : Machine τ) : Prop where
  completes : Completes x key n n'
  once : ∀ es y, (n'.after es).processor.mode = .awaitingKey y →
    n'.Began es y (n'.after es).state.pc

theorem ends_of_completes {maxDepth : Nat} {n n' : Machine τ} {x : Reg} {key : Key}
    (hsound : n'.processor.Sound maxDepth) (h : Completes x key n n') : Ends x key n n' :=
  ⟨h, fun _ _ hy => began_of_waiting hsound h.mode hy⟩

/-- **A wait ends once, with the first key.** Let a step begin a wait for a key for `Vx`, and let
any events but resets follow, such as those of any actions but resets.

As long as no key goes down, the registers stay as they are, and a step executes nothing and leaves
the processor waiting. Let then a key go down. If the machine runs, this ends the wait with that
key. If not, the wait goes on until something attends to it, and that ends it with the same key. -/
theorem wait_ends_once {c : Config} {m : Machine τ} (hm : Reachable c m) {x : Reg}
    (hb : m.Begins x) (now : τ) :
    let m₁ := m.happen (.pulse now)
    (m₁.processor.mode = .awaitingKey x ∧ m₁.state.registers = m.state.registers) ∧
    (∀ as, (∀ a ∈ as, a.resets = false) →
      m₁.acts as = m₁.after (m₁.trace as) ∧ ∀ e ∈ m₁.trace as, e.isReset = false) ∧
    ∀ es, (∀ e ∈ es, e.isReset = false) → Never presses m₁ es →
      let n := m₁.after es
      Waits x .waiting m₁ n ∧
      (∀ now', ∃ s, (n.forceStep now').answer = .ok s ∧ s.word = none ∧ s.mode = .awaitingKey x) ∧
      ∀ key, n.state.keypad.isDown key = false →
        let n' := n.happen (.key key true)
        (n.isRunning = true → Ends x key n n') ∧
        (n.isRunning = false → ∀ fs, (∀ f ∈ fs, f.isReset = false) → Never attends n' fs →
          Waits x (.caught key) m₁ (n'.after fs) ∧
          ∀ f, (n'.after fs).attends f = true →
            Ends x key (n'.after fs) ((n'.after fs).happen f)) := by
  intro m₁
  have hsound : m₁.processor.Sound c.stackDepth := (hm.happen _).sound
  obtain ⟨hmode, hlatch, hregisters⟩ := waits_of_begins hb now
  refine ⟨⟨hmode, hregisters⟩, ?_, ?_⟩
  · intro as has
    exact ⟨acts_eq_after_trace m₁ as, fun e he => isReset_of_mem_trace has he⟩
  · intro es hreset hnever n
    -- the first stage: no key has gone down
    have hn : Waits x .waiting m₁ n := waits_after_of_never_presses hmode hlatch hreset hnever
    have hnsound : n.processor.Sound c.stackDepth := sound_after hsound es
    refine ⟨hn, ?_, ?_⟩
    · intro now'
      refine ⟨_, answer_of_awaiting hn.mode now', rfl, ?_⟩
      have hstill := waits_happen (e := .pulse now') hn.mode rfl ?_
      · exact hstill.mode
      · intro _ key hk
        cases hn.latch.symm.trans hk
    · -- the second stage: the key is caught, and the wait ends now or when something attends to it
      intro key hup n'
      have hcaught := latchAfter_of_presses hn.latch hup
      have hnsound' : n'.processor.Sound c.stackDepth := sound_happen hnsound _
      constructor
      · intro hrun
        exact ends_of_completes hnsound' (completes_happen hn.mode hrun hcaught)
      · intro hrun fs hfs hunattended
        have hstill := waits_happen (e := .key key true) hn.mode rfl ?_
        · rw [hcaught] at hstill
          have hwaits := waits_after_of_never_attends hstill.mode hstill.latch hfs hunattended
          refine ⟨hn.trans (hstill.trans hwaits), ?_⟩
          intro f hf
          have hends := completes_happen hwaits.mode hf (latchAfter_of_caught hwaits.latch f)
          exact ends_of_completes (sound_happen (sound_after hnsound' fs) f) hends
        · intro hattends
          change n.isRunning = true at hattends
          rw [hrun] at hattends
          cases hattends

/-- The program `F30A` is begun by a machine that was never started, key 7 goes down, and key 9
after it. The machine is started, and the release of key 9 ends the wait with key 7. -/
theorem wait_ends_once_before_start :
    let m := (Config.machine {} (.ofSeed 0) 1 0 : Machine Nat).act (.loadProgram [0xF3, 0x0A])
    let n := ((m.happen (.pulse 0)).happen (.key 7 true)).after [.key 9 true, .start]
    Reachable {} m ∧ m.Begins 3 ∧ Ends 3 7 n (n.happen (.key 9 false)) := by
  intro m n
  have hm : Reachable {} m := .act _ (.built _ _ _)
  obtain ⟨hmode, hpc, hhigh, hlow⟩ : m.processor.mode = .running ∧ m.state.pc = 0x200 ∧
      m.state.memory.bytes[(0x200 : Fin 4096)] = 0xF3 ∧
      m.state.memory.bytes[(0x201 : Fin 4096)] = 0x0A := by decide +kernel
  have hf : m.state.fetch = .ok 0xF30A :=
    State.fetch_of_bytes m.state 0x200 0x201 0xF3 0x0A hpc rfl hhigh hlow
  have hb : m.Begins 3 := ⟨hmode, 0xF30A, hf, by decide +kernel⟩
  have hwait := (wait_ends_once hm hb 0).2.2 [] nofun never_nil
  have hcaught := (hwait.2.2 7 (by decide +kernel)).2 (by decide +kernel) [.key 9 true, .start]
    (by decide) (never_cons_iff.2 ⟨by decide +kernel, never_cons_iff.2 ⟨rfl, never_nil⟩⟩)
  have hends := hcaught.2 (.key 9 false) (by decide +kernel)
  exact ⟨hm, hb, hends⟩

end Machine

end Chip8
