import Chip8.Proofs.Instruction.Failure

set_option autoImplicit false

/-! # What a step of the processor can do

`Proceeds` lists the outcomes of a step behind the tick of the timers, each with its conditions
and all that it leaves: the processor waits, the fetch fails, the instruction fails, it leads behind
the end of memory, or it is carried out. Every step has one of them (`proceeds`), so that
a proof about steps is a case analysis on `Proceeds`.
-/

namespace Chip8

/-! ## The fetch -/

namespace State

/-- A fetch fails at the first of its two addresses that lies behind the memory. -/
theorem fetch_eq_error_iff {s : State} {e : Fault} (h0 : 0 ≤ s.pc) :
    s.fetch = .error e ↔ 0xFFE < s.pc ∧ e = .addressOutOfBounds (max s.pc 0x1000) := by
  unfold fetch
  cases hh : s.memory.read s.pc with
  | error e' =>
      obtain ⟨hn, rfl⟩ := Memory.read_eq_error_iff.1 hh
      have hmax : max s.pc 0x1000 = s.pc := by omega
      simp only [Except.error.injEq, hmax]
      exact ⟨fun he => ⟨by omega, he.symm⟩, fun he => he.2.symm⟩
  | ok high =>
      have hpc := Memory.exists_read_iff.1 ⟨high, hh⟩
      simp only [map_eq_error_iff, Memory.read_eq_error_iff]
      constructor
      · rintro ⟨hn, rfl⟩
        have hmax : s.pc + 1 = max s.pc 0x1000 := by omega
        exact ⟨by omega, by rw [hmax]⟩
      · rintro ⟨hlt, rfl⟩
        have hmax : max s.pc 0x1000 = s.pc + 1 := by omega
        exact ⟨by omega, by rw [hmax]⟩

/-- The word at the program counter has its high byte first. -/
theorem fetch_eq_ok_iff {s : State} {w : Word} :
    s.fetch = .ok w ↔
      ∃ high low, s.memory.read s.pc = .ok high ∧ s.memory.read (s.pc + 1) = .ok low ∧
        w = Word.ofBytes high low := by
  unfold fetch
  cases s.memory.read s.pc with
  | error e => simp
  | ok high =>
      cases s.memory.read (s.pc + 1) with
      | error e => simp [Except.map]
      | ok low => simp [Except.map, eq_comm]

/-- The word at the place `k`. -/
theorem fetch_of_bytes (s : State) (k l : Fin 4096) (high low : UInt8) (hpc : s.pc = k.val)
    (hl : l.val = k.val + 1) (hhigh : s.memory.bytes[k] = high) (hlow : s.memory.bytes[l] = low) :
    s.fetch = .ok (Word.ofBytes high low) :=
  fetch_eq_ok_iff.2 ⟨high, low, Memory.read_eq_ok_iff.2 ⟨k, hpc, hhigh⟩,
    Memory.read_eq_ok_iff.2 ⟨l, by omega, hlow⟩, rfl⟩

/-- A word that was fetched has 16 bits. -/
theorem bounds_of_fetch {s : State} {w : Word} (h : s.fetch = .ok w) : 0 ≤ w ∧ w ≤ 0xFFFF := by
  obtain ⟨high, low, _, _, rfl⟩ := fetch_eq_ok_iff.1 h
  have hhigh := high.toNat_lt
  have hlow := low.toNat_lt
  show (0 : Int) ≤ high.toNat * 256 + low.toNat ∧ (high.toNat * 256 + low.toNat : Int) ≤ 0xFFFF
  omega

theorem exists_fetch_iff {s : State} : (∃ w, s.fetch = .ok w) ↔ 0 ≤ s.pc ∧ s.pc ≤ 0xFFE := by
  constructor
  · rintro ⟨w, hw⟩
    obtain ⟨high, low, hh, hl, _⟩ := fetch_eq_ok_iff.1 hw
    have := Memory.exists_read_iff.1 ⟨high, hh⟩
    have := Memory.exists_read_iff.1 ⟨low, hl⟩
    omega
  · intro hpc
    obtain ⟨high, hh⟩ := (Memory.exists_read_iff (m := s.memory) (a := s.pc)).2 (by omega)
    obtain ⟨low, hl⟩ := (Memory.exists_read_iff (m := s.memory) (a := s.pc + 1)).2 (by omega)
    exact ⟨_, fetch_eq_ok_iff.2 ⟨high, low, hh, hl, rfl⟩⟩

end State

/-! ## The tick of the timers -/

namespace Processor

section Tick

variable {τ : Type} [Sub τ] [LT τ] [DecidableLT τ] (p : Processor τ) (now : τ)

/-- A tick changes nothing of the state but the timers. -/
theorem state_tick : (p.tick now).state = p.state ∨ (p.tick now).state = p.state.tickTimers := by
  unfold tick
  split
  · exact .inl rfl
  · exact .inr rfl

/-- A tick changes the timers and the reading of the clock. -/
theorem exists_tick : ∃ delay sound lastTick,
    p.tick now = { p with state := { p.state with delay, sound }, lastTick } := by
  unfold tick
  split
  · exact ⟨_, _, _, rfl⟩
  · exact ⟨_, _, _, rfl⟩

@[simp] theorem mode_tick : (p.tick now).mode = p.mode := by unfold tick; split <;> rfl
@[simp] theorem count_tick : (p.tick now).count = p.count := by unfold tick; split <;> rfl
@[simp] theorem period_tick : (p.tick now).period = p.period := by unfold tick; split <;> rfl

@[simp] theorem registers_tick : (p.tick now).state.registers = p.state.registers := by
  rcases p.state_tick now with h | h <;> rw [h]; rfl
@[simp] theorem memory_tick : (p.tick now).state.memory = p.state.memory := by
  rcases p.state_tick now with h | h <;> rw [h]; rfl
@[simp] theorem stack_tick : (p.tick now).state.stack = p.state.stack := by
  rcases p.state_tick now with h | h <;> rw [h]; rfl
@[simp] theorem screen_tick : (p.tick now).state.screen = p.state.screen := by
  rcases p.state_tick now with h | h <;> rw [h]; rfl
@[simp] theorem keypad_tick : (p.tick now).state.keypad = p.state.keypad := by
  rcases p.state_tick now with h | h <;> rw [h]; rfl
@[simp] theorem random_tick : (p.tick now).state.random = p.state.random := by
  rcases p.state_tick now with h | h <;> rw [h]; rfl
@[simp] theorem pc_tick : (p.tick now).state.pc = p.state.pc := by
  rw [State.pc, registers_tick, State.pc]
@[simp] theorem fetch_tick : (p.tick now).state.fetch = p.state.fetch := by
  rw [State.fetch, State.fetch, memory_tick, pc_tick]

end Tick

/-! ## The end of a wait -/

section Resolve

variable {τ : Type} {p : Processor τ}

/-- The processor whose wait for a key has ended with the number of the key in `Vx`. -/
def completed (p : Processor τ) (x : Reg) (key : Key) : Processor τ :=
  { p with
    mode := .running
    state := { p.state with
      keypad := { p.state.keypad with latch := .idle }
      registers := (p.state.registers.set x (UInt8.ofNat key.val)).skip } }

theorem resolve_of_caught {x : Reg} {key : Key} (hm : p.mode = .awaitingKey x)
    (hk : p.state.keypad.latch = .caught key) : p.resolve.2 = p.completed x key := by
  simp only [resolve, hm, Keypad.take, hk, completed]

theorem resolve_of_running (hm : p.mode = .running) : p.resolve.2 = p := by
  simp only [resolve, hm]

theorem resolve_of_not_caught (hk : ∀ key, p.state.keypad.latch ≠ .caught key) :
    p.resolve.2 = p := by
  unfold resolve
  cases hm : p.mode with
  | running => rfl
  | awaitingKey x =>
      cases hl : p.state.keypad.latch with
      | caught key => exact absurd hl (hk key)
      | idle => simp only [Keypad.take, hl]
      | waiting => simp only [Keypad.take, hl]

/-- A wait ends with the key that was caught, or else nothing changes. -/
theorem resolve_cases (p : Processor τ) :
    p.resolve.2 = p ∨ ∃ x key, p.mode = .awaitingKey x ∧ p.state.keypad.latch = .caught key ∧
      p.resolve.2 = p.completed x key := by
  cases hm : p.mode with
  | running => exact .inl (resolve_of_running hm)
  | awaitingKey x =>
      by_cases hk : ∃ key, p.state.keypad.latch = .caught key
      · obtain ⟨key, hk⟩ := hk
        exact .inr ⟨x, key, rfl, hk, resolve_of_caught hm hk⟩
      · exact .inl (resolve_of_not_caught fun key h => hk ⟨key, h⟩)

end Resolve

/-! ## The outcomes of a step -/

variable {τ : Type}

/-- The processor after it has carried out the word `w`, which made its state `t`. -/
def executed (p : Processor τ) (w : Word) (t : State) : Processor τ :=
  { p with
    state := t
    count := p.count + 1
    mode := if t.keypad.isAwaiting then .awaitingKey w.x else p.mode }

/-- What a step does behind the tick. -/
inductive Proceeds (p : Processor τ) : Outcome (Processor τ) Snapshot → Prop where
  /-- The processor waits for a key; it takes one that was caught. -/
  | waits {x : Reg} : p.mode = .awaitingKey x →
      Proceeds p { answer := .ok (p.resolve.2.snapshot none), after := p.resolve.2 }
  /-- There is no word at the program counter. -/
  | unfetched {e : Fault} : p.mode = .running → p.state.fetch = .error e →
      Proceeds p { answer := .error e, after := p }
  /-- The instruction fails. -/
  | refused {w : Word} {e : Fault} : p.mode = .running → p.state.fetch = .ok w →
      (Instruction.decode w).execute p.state.advance = .error e →
      Proceeds p { answer := .error e, after := p, log := w.records }
  /-- The instruction is carried out, but leads behind the end of memory. -/
  | overrun {w : Word} {t : State} : p.mode = .running → p.state.fetch = .ok w →
      (Instruction.decode w).execute p.state.advance = .ok t → 0xFFF < t.pc →
      Proceeds p
        { answer := .error (.pastEndOfMemory t.pc)
          after := { p with state := t.setPc p.state.pc }
          log := w.records }
  /-- The instruction is carried out. -/
  | executes {w : Word} {t : State} : p.mode = .running → p.state.fetch = .ok w →
      (Instruction.decode w).execute p.state.advance = .ok t → t.pc ≤ 0xFFF →
      Proceeds p
        { answer := .ok ((p.executed w t).snapshot (some w))
          after := p.executed w t
          log := w.records }

theorem proceeds (p : Processor τ) : Proceeds p p.proceed := by
  unfold proceed
  cases hm : p.mode with
  | awaitingKey x => exact .waits hm
  | running =>
      cases hf : p.state.fetch with
      | error e => exact .unfetched hm hf
      | ok w =>
          simp only [perform]
          cases he : (Instruction.decode w).execute p.state.advance with
          | error e => exact .refused hm hf he
          | ok t =>
              -- the program counter is looked at only after the instruction has had its effects
              have hspace : addressSpace = 0x1000 := rfl
              by_cases hpc : addressSpace ≤ t.pc
              · simp only [if_pos hpc]
                exact .overrun hm hf he (by omega)
              · simp only [if_neg hpc]
                have := Proceeds.executes hm hf he (by omega)
                simpa only [executed, hm] using this

/-- A step has only one outcome. -/
theorem proceed_eq_of_proceeds {p : Processor τ} {o : Outcome (Processor τ) Snapshot}
    (h : Proceeds p o) : p.proceed = o := by
  have hspace : addressSpace = 0x1000 := rfl
  cases h with
  | waits hm => simp only [proceed, hm]
  | unfetched hm hf => simp only [proceed, hm, hf]
  | refused hm hf he => simp only [proceed, hm, hf, perform, he]
  | @overrun w t hm hf he hpc =>
      have hlimit : addressSpace ≤ t.pc := by omega
      simp only [proceed, hm, hf, perform, he, if_pos hlimit]
  | @executes w t hm hf he hpc =>
      have hlimit : ¬ addressSpace ≤ t.pc := by omega
      simp only [proceed, hm, hf, perform, he, if_neg hlimit, executed]

theorem proceed_of_awaiting {p : Processor τ} {x : Reg} (hx : p.mode = .awaitingKey x) :
    p.proceed = { answer := .ok (p.resolve.2.snapshot none), after := p.resolve.2 } := by
  simp only [proceed, hx]

end Processor

end Chip8
