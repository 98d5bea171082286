import Chip8.Machine.Dump
import Chip8.Proofs.Machine.Footprint

set_option autoImplicit false

/-! # The dump and the next step

A dump puts the word at the program counter together by itself, by a shift and an or, and a step
fetches it in its own way. The two agree (`word_dump`), so that a dump of a machine that does not
wait shows the word that the next step executes, or no word if the next step fails in the fetch. A
machine that waits for a key always stands at a word. The whole is in `dump_shows_next_word`.

Dumps may be taken at any time: between the actions of a host they change nothing (`serve_eq_acts`).
-/

namespace Chip8

/-! ## The word of a dump -/

/-- Putting a byte behind another one is a shift and an or. -/
theorem Word.ofBytes_eq_or (high low : UInt8) :
    Word.ofBytes high low = ((high.toNat <<< 8 ||| low.toNat : Nat) : Int) := by
  have hlow : low.toNat < 2 ^ 8 := low.toNat_lt
  rw [← Nat.shiftLeft_add_eq_or_of_lt hlow, Nat.shiftLeft_eq]
  rfl

/-- The word that is put together at the program counter is the one that is fetched there. -/
theorem State.wordAt?_pc (s : State) : s.memory.wordAt? s.pc = s.fetch.toOption := by
  unfold Memory.wordAt? State.fetch
  cases s.memory.read s.pc with
  | error e => rfl
  | ok high =>
      cases s.memory.read (s.pc + 1) with
      | error e => rfl
      | ok low => exact congrArg some (Word.ofBytes_eq_or high low).symm

namespace Machine

variable {τ : Type}

theorem word_dump (m : Machine τ) : m.dump.word = m.state.fetch.toOption := m.state.wordAt?_pc

theorem word_dump_eq_some {m : Machine τ} {w : Word} :
    m.dump.word = some w ↔ m.state.fetch = .ok w := by
  rw [word_dump]
  cases m.state.fetch with
  | ok v => simp [Except.toOption]
  | error e => simp [Except.toOption]

theorem word_dump_eq_none {m : Machine τ} :
    m.dump.word = none ↔ ∃ e, m.state.fetch = .error e := by
  rw [word_dump]
  cases m.state.fetch with
  | ok v => simp [Except.toOption]
  | error e => simp [Except.toOption]

/-- A machine that waits for a key stands at a word. -/
theorem exists_fetch_of_awaiting {maxDepth : Nat} {m : Machine τ}
    (h : m.processor.Sound maxDepth) {x : Reg} (hx : m.processor.mode = .awaitingKey x) :
    ∃ w, m.state.fetch = .ok w :=
  State.exists_fetch_iff.2 ⟨h.pc.1, h.waits x hx⟩

variable [Sub τ] [LT τ] [DecidableLT τ]

/-! ## Dumps between actions -/

/-- What a host can ask of a machine: an action, or a dump. -/
inductive Request (τ : Type) where
  | act (a : Action τ)
  | dump

/-- The action of a request, if it is not for a dump. -/
def Request.action? : Request τ → Option (Action τ)
  | act a => some a
  | dump => none

/-- What requests leave of a machine, and the dumps that they gave. -/
def serve (m : Machine τ) : List (Request τ) → Machine τ × List Dump
  | [] => (m, [])
  | .act a :: rest => (m.act a).serve rest
  | .dump :: rest => ((m.serve rest).1, m.dump :: (m.serve rest).2)

/-- Dumps leave a machine as the actions alone leave it. -/
theorem serve_eq_acts (m : Machine τ) (requests : List (Request τ)) :
    (m.serve requests).1 = m.acts (requests.filterMap Request.action?) := by
  induction requests generalizing m with
  | nil => rfl
  | cons request rest ih =>
      cases request with
      | act a => exact ih (m.act a)
      | dump => exact ih m

/-! ## The next step -/

/-- The next step fails before it has a word, whether or not it is forced. -/
structure FailsInFetch (m : Machine τ) (now : τ) (e : Fault) : Prop where
  fetch : (m.processor.tick now).state.fetch = .error e
  forceStep : (m.forceStep now).answer = .error e
  step : m.isRunning = true → (m.step now).answer = .error e

theorem failsInFetch_of_fetch {m : Machine τ} (hmode : m.processor.mode = .running) (now : τ)
    {e : Fault} (hf : m.state.fetch = .error e) : m.FailsInFetch now e := by
  have hfetch : (m.processor.tick now).state.fetch = .error e :=
    (m.processor.fetch_tick now).trans hf
  have hproceed := Processor.proceed_eq_of_proceeds
    (.unfetched ((m.processor.mode_tick now).trans hmode) hfetch)
  have hstep : (m.processor.step now).answer = .error e :=
    congrArg Outcome.answer hproceed
  refine ⟨hfetch, (m.answer_forceStep now).trans hstep, fun hrun => ?_⟩
  rw [m.answer_step_of_isRunning now hrun, hstep]
  rfl

/-- A step that gives a snapshot, forced or not, is a step of the processor. -/
theorem answer_of_snapshot {m : Machine τ} {now : τ} {r : Snapshot}
    (hr : (m.forceStep now).answer = .ok r ∨ (m.step now).answer = .ok (some r)) :
    (m.processor.step now).answer = .ok r := by
  rcases hr with hr | hr
  · rw [← answer_forceStep]
    exact hr
  · cases hrun : m.isRunning with
    | false =>
        -- a machine that does not run gives no snapshot
        rw [step, hrun] at hr
        cases hr
    | true =>
        rw [m.answer_step_of_isRunning now hrun] at hr
        cases hanswer : (m.processor.step now).answer with
        | error e =>
            rw [hanswer] at hr
            cases hr
        | ok s =>
            rw [hanswer] at hr
            cases hr
            rfl

/-- A step that does not fail shows the word that was at the program counter. -/
theorem word_of_snapshot {m : Machine τ} (hmode : m.processor.mode = .running) {now : τ}
    {r : Snapshot} (hr : (m.processor.step now).answer = .ok r) {w : Word}
    (hf : m.state.fetch = .ok w) : r.word = some w := by
  obtain ⟨v, t, hv, _, hword, _⟩ := Processor.executes_of_proceeds_ok
    ((m.processor.mode_tick now).trans hmode) (Processor.proceeds _) hr
  have hsame : m.state.fetch = .ok v := (m.processor.fetch_tick now).symm.trans hv
  cases hf.symm.trans hsame
  exact hword

/-- **A dump shows the word that the next step executes.** Dumps of a machine change nothing. If the
machine does not wait for a key, its dump has no word exactly if the next step fails in the fetch,
at whatever reading of the clock; and if it has one, a next step that succeeds gives a snapshot of
this word, which both spell alike. If the machine waits for a key, its dump has a word. -/
theorem dump_shows_next_word {c : Config} {m : Machine τ} (hm : Reachable c m) :
    (∀ requests, (m.serve requests).1 = m.acts (requests.filterMap Request.action?)) ∧
    (m.processor.mode = .running → ∀ now,
      (m.dump.word = none ↔ ∃ e, m.FailsInFetch now e) ∧
      ∀ w, m.dump.word = some w → ∀ r,
        ((m.forceStep now).answer = .ok r ∨ (m.step now).answer = .ok (some r)) →
        r.word = some w ∧ r.wordText = some m.dump.wordText) ∧
    ((∃ x, m.processor.mode = .awaitingKey x) → m.dump.word ≠ none) := by
  refine ⟨m.serve_eq_acts, fun hmode now => ⟨⟨?_, ?_⟩, ?_⟩, ?_⟩
  · intro hnone
    obtain ⟨e, he⟩ := word_dump_eq_none.1 hnone
    exact ⟨e, failsInFetch_of_fetch hmode now he⟩
  · rintro ⟨e, hfails⟩
    exact word_dump_eq_none.2 ⟨e, (m.processor.fetch_tick now).symm.trans hfails.fetch⟩
  · intro w hw r hr
    have hword := word_of_snapshot hmode (answer_of_snapshot hr) (word_dump_eq_some.1 hw)
    refine ⟨hword, ?_⟩
    rw [Snapshot.wordText, hword, Dump.wordText, hw]
    rfl
  · rintro ⟨x, hx⟩ hnone
    obtain ⟨w, hw⟩ := exists_fetch_of_awaiting hm.sound hx
    rw [word_dump_eq_some.2 hw] at hnone
    cases hnone

/-- The first program stores the word `6107` behind its last instruction, where it is the next one.
The second stores a wait for a key at the last word and jumps there, and a key goes down: the
program counter stands behind the memory. -/
theorem dump_shows_next_word_of_stored_code :
    let m := (Config.machine {} (.ofSeed 0) 1 0 : Machine Nat).acts
      [.loadProgram [0x60, 0x61, 0x61, 0x07, 0xA2, 0x08, 0xF1, 0x55], .start, .run (fun _ => 0) 4]
    let n := (Config.machine {} (.ofSeed 0) 1 0 : Machine Nat).acts
      [.loadProgram [0x60, 0xF0, 0x61, 0x0A, 0xAF, 0xFE, 0xF1, 0x55, 0x1F, 0xFE], .start,
        .run (fun _ => 0) 6, .setKey (.int 3) true]
    Reachable {} m ∧ m.processor.mode = .running ∧ m.dump.word = some 0x6107 ∧
      (∃ r, (m.forceStep 0).answer = .ok r ∧ r.word = some 0x6107 ∧
        r.wordText = some m.dump.wordText) ∧
      Reachable {} n ∧ n.processor.mode = .running ∧ n.dump.word = none ∧
      ∃ e, n.FailsInFetch 0 e := by
  intro m n
  have hm : Reachable {} m := (Reachable.built _ _ _).acts _
  have hn : Reachable {} n := (Reachable.built _ _ _).acts _
  obtain ⟨hmode, hword, hok⟩ : m.processor.mode = .running ∧ m.dump.word = some 0x6107 ∧
      (m.forceStep 0).answer.isOk = true := by decide +kernel
  obtain ⟨hmode', hnone⟩ : n.processor.mode = .running ∧ n.dump.word = none := by decide +kernel
  obtain ⟨r, hr⟩ := exists_eq_ok_of_isOk hok
  have hshown := ((dump_shows_next_word hm).2.1 hmode 0).2 _ hword r (.inl hr)
  have hfails := ((dump_shows_next_word hn).2.1 hmode' 0).1.1 hnone
  exact ⟨hm, hmode, hword, ⟨r, hr, hshown⟩, hn, hmode', hnone, hfails⟩

end Machine

end Chip8
