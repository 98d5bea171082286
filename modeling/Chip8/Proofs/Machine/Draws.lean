import Chip8.Proofs.Instruction.Footprint
import Chip8.Proofs.Machine.Settings

set_option autoImplicit false

/-! # Random bytes along a history

The source of random bytes is a stream: `Twister.stream t k` is the byte that is drawn behind `k`
others, and `Twister.after t k` is what the source is then. A step *rolls* if it executes a word
`Cxkk` (`roll?`), whether or not the step fails afterwards.

A roll makes one draw, and every other event none (`state_happen_of_roll`,
`random_happen_of_not_roll`). So the number of rolls is the position in the stream at every moment
of a history (`random_after`), and the byte that a roll uses is the one at that position
(`rolls_take_the_stream`).
-/

namespace Chip8

namespace Twister

/-- The source of random bytes after `k` draws. -/
def after (t : Twister) : Nat → Twister
  | 0 => t
  | k + 1 => (t.after k).byte.2

/-- The byte that is drawn behind `k` others. -/
def stream (t : Twister) (k : Nat) : UInt8 := (t.after k).byte.1

theorem after_add (t : Twister) (j k : Nat) : t.after (j + k) = (t.after j).after k := by
  induction k with
  | zero => rfl
  | succ k ih =>
      show (t.after (j + k)).byte.2 = ((t.after j).after k).byte.2
      rw [ih]

end Twister

namespace Instruction

/-- The word `Cxkk` is the instruction that draws. -/
theorem decode_of_fits_random {w : Word} (h : w.fits "Cxkk" = true) :
    decode w = random w.x w.kk := by
  -- the form asks for the highest digit alone, and this is enough for the decoder
  have hkind : (w.digit 3).val = 0xC := by
    simpa [Word.fits, Word.formDigit?, List.idxOf?_cons] using h
  simp [decode, hkind]

/-- The byte that is drawn goes into `Vx`, masked with `kk`. -/
theorem state_of_execute_random {x : Reg} {kk : UInt8} {s t : State}
    (h : (random x kk).execute s = .ok t) :
    t.random = s.random.byte.2 ∧ t.get x = s.random.byte.1 &&& kk := by
  cases h
  exact ⟨rfl, Registers.get_set_self _ _ _⟩

end Instruction

namespace Machine

variable {τ : Type}

/-- The word `Cxkk` that is executed when an event happens, if there is one. -/
def roll? (m : Machine τ) : Event τ → Option Word
  | .pulse _ =>
    match m.processor.mode, m.state.fetch with
    | .running, .ok w => if w.fits "Cxkk" then some w else none
    | _, _ => none
  | _ => none

theorem roll?_pulse_eq_some {m : Machine τ} {now : τ} {w : Word} :
    m.roll? (.pulse now) = some w ↔
      m.processor.mode = .running ∧ m.state.fetch = .ok w ∧ w.fits "Cxkk" = true := by
  unfold roll?
  cases m.processor.mode with
  | awaitingKey x => simp
  | running =>
      cases m.state.fetch with
      | error e => simp
      | ok v =>
          simp only [Option.ite_none_right_eq_some, Option.some.injEq, true_and, Except.ok.injEq]
          constructor
          · rintro ⟨hfits, rfl⟩
            exact ⟨rfl, hfits⟩
          · rintro ⟨rfl, hfits⟩
            exact ⟨hfits, rfl⟩

variable [Sub τ] [LT τ] [DecidableLT τ]

/-- The number of events that roll. -/
def rolls (m : Machine τ) : List (Event τ) → Nat
  | [] => 0
  | e :: es => (if (m.roll? e).isSome then 1 else 0) + (m.happen e).rolls es

/-! ## One event -/

section Event

variable {m : Machine τ}

omit [Sub τ] [LT τ] [DecidableLT τ] in
theorem random_resolve (p : Processor τ) : p.resolve.2.state.random = p.state.random := by
  rcases p.resolve_cases with hp | ⟨x, key, _, _, hp⟩ <;> rw [hp]
  rfl

theorem state_happen_pulse (m : Machine τ) (now : τ) :
    (m.happen (.pulse now)).state = (m.processor.tick now).proceed.after.state := by
  show (m.forceStep now).after.processor.state = _
  rw [processor_forceStep]
  rfl

/-- A roll makes one draw, and leaves the byte in `Vx`, masked with `kk`. -/
theorem state_happen_of_roll {e : Event τ} {w : Word} (h : m.roll? e = some w) :
    (m.happen e).state.random = m.state.random.byte.2 ∧
      (m.happen e).state.get w.x = m.state.random.byte.1 &&& w.kk := by
  cases e with
  | pulse now =>
      obtain ⟨hmode, hfetch, hfits⟩ := roll?_pulse_eq_some.1 h
      have hdecode := Instruction.decode_of_fits_random hfits
      have hmode' : (m.processor.tick now).mode = .running := by rw [Processor.mode_tick, hmode]
      have hfetch' : (m.processor.tick now).state.fetch = .ok w := by
        rw [Processor.fetch_tick]
        exact hfetch
      have hrandom : (m.processor.tick now).state.random = m.state.random :=
        Processor.random_tick _ _
      obtain ⟨t, ht⟩ : ∃ t,
          (Instruction.decode w).execute (m.processor.tick now).state.advance = .ok t := by
        rw [hdecode]
        exact ⟨_, rfl⟩
      -- the state is the same whether or not the step fails behind the end of memory
      have hstate : (m.happen (.pulse now)).state.random = t.random ∧
          (m.happen (.pulse now)).state.get w.x = t.get w.x := by
        rw [state_happen_pulse]
        by_cases hpc : t.pc ≤ 0xFFF
        · rw [Processor.proceed_eq_of_proceeds (.executes hmode' hfetch' ht hpc)]
          exact ⟨rfl, rfl⟩
        · rw [Processor.proceed_eq_of_proceeds (.overrun hmode' hfetch' ht (by omega))]
          exact ⟨rfl, rfl⟩
      rw [hdecode] at ht
      obtain ⟨hafter, hbyte⟩ := Instruction.state_of_execute_random ht
      have hadvance : (m.processor.tick now).state.advance.random = m.state.random := hrandom
      rw [hstate.1, hstate.2, hafter, hbyte, hadvance]
      exact ⟨rfl, rfl⟩
  | _ => cases h

/-- What does not roll makes no draw. -/
theorem random_happen_of_not_roll {e : Event τ} (h : m.roll? e = none) :
    (m.happen e).state.random = m.state.random := by
  cases e with
  | start => rfl
  | stop => rfl
  | reset now => rfl
  | write data =>
      show (m.loadProgram data).after.state.random = _
      unfold loadProgram
      split
      · split <;> rfl
      · rfl
  | key key pressed =>
      show (m.processor.setKey key pressed m.isRunning).state.random = _
      unfold Processor.setKey
      split
      · exact random_resolve _
      · rfl
  | pulse now =>
      have hrandom : (m.processor.tick now).state.random = m.state.random :=
        Processor.random_tick _ _
      -- an instruction that is carried out is none of the words `Cxkk`
      have hexecute {w : Word} {t : State} (hmode : (m.processor.tick now).mode = .running)
          (hfetch : (m.processor.tick now).state.fetch = .ok w)
          (ht : (Instruction.decode w).execute (m.processor.tick now).state.advance = .ok t) :
          t.random = m.state.random := by
        rw [Processor.mode_tick] at hmode
        rw [Processor.fetch_tick] at hfetch
        have hno : ¬ (Instruction.decode w).IsOneOf ["Cxkk"] := by
          rintro ⟨f, hf, hform⟩
          rw [List.mem_singleton.1 hf] at hform
          have hfits := Instruction.fits_of_form? (State.bounds_of_fetch hfetch) hform
          rw [roll?_pulse_eq_some.2 ⟨hmode, hfetch, hfits⟩] at h
          cases h
        rw [(Instruction.effect_of_execute ht).random, Instruction.nextRandom_of_not_isOneOf _ hno,
          hrandom]
      have hproceeds := (m.processor.tick now).proceeds
      rw [state_happen_pulse]
      generalize (m.processor.tick now).proceed = o at hproceeds
      cases hproceeds with
      | waits hmode => exact (random_resolve _).trans hrandom
      | unfetched hmode hfetch => exact hrandom
      | refused hmode hfetch he => exact hrandom
      | @overrun w t hmode hfetch ht hpc =>
          show t.random = m.state.random
          exact hexecute hmode hfetch ht
      | executes hmode hfetch ht hpc => exact hexecute hmode hfetch ht

end Event

/-! ## Histories -/

theorem rolls_append (m : Machine τ) (es fs : List (Event τ)) :
    m.rolls (es ++ fs) = m.rolls es + (m.after es).rolls fs := by
  induction es generalizing m with
  | nil => exact (Nat.zero_add _).symm
  | cons e es ih =>
      rw [List.cons_append, rolls, rolls, ih, Nat.add_assoc]
      rfl

/-- **The number of rolls is the position in the stream.** -/
theorem random_after (m : Machine τ) (es : List (Event τ)) :
    (m.after es).state.random = m.state.random.after (m.rolls es) := by
  induction es generalizing m with
  | nil => rfl
  | cons e es ih =>
      rw [after_cons, ih, rolls, Twister.after_add]
      congr 1
      cases hroll : m.roll? e with
      | none => exact random_happen_of_not_roll hroll
      | some w => exact (state_happen_of_roll hroll).1

/-- The machine that operations leave. -/
def operateAll (m : Machine τ) (ops : List (Operation τ)) : Machine τ :=
  ops.foldl (fun m op => (m.operate op).after) m

theorem operateAll_eq_after_traceOf (m : Machine τ) (ops : List (Operation τ)) :
    m.operateAll ops = m.after (m.traceOf ops) := by
  induction ops generalizing m with
  | nil => rfl
  | cons op ops ih =>
      rw [traceOf, after_append, ← after_operate, ← ih]
      rfl

/-- **Random bytes are taken from the stream by `Cxkk` alone, one for each execution.** A machine is
built from a configuration with a seed, and a host does with it whatever it likes. Then the source
of random bytes is as many draws behind its beginning as words `Cxkk` were executed. Each of them
took the next byte of the stream and left it in `Vx`, masked with `kk`; and whatever else happened
left the source as it was. -/
theorem rolls_take_the_stream (c : Config) {seed : Int} (hseed : c.randomSeed = some seed)
    (given : Int) (period now : τ) (ops : List (Operation τ)) :
    let m := c.machine (.ofSeed (c.randomSeed.getD given)) period now
    (m.operateAll ops).state.random = (Twister.ofSeed seed).after (m.rolls (m.traceOf ops)) ∧
    ∀ pre e post, m.traceOf ops = pre ++ e :: post →
      (∀ w, (m.after pre).roll? e = some w →
        (m.after (pre ++ [e])).state.get w.x = (Twister.ofSeed seed).stream (m.rolls pre) &&& w.kk ∧
        (m.after (pre ++ [e])).state.get w.x ≤ w.kk ∧
        (m.after (pre ++ [e])).state.get w.x &&& ~~~w.kk = 0 ∧
        m.rolls (pre ++ [e]) = m.rolls pre + 1 ∧
        (m.after (pre ++ [e])).state.random = (Twister.ofSeed seed).after (m.rolls pre + 1)) ∧
      ((m.after pre).roll? e = none →
        m.rolls (pre ++ [e]) = m.rolls pre ∧
        (m.after (pre ++ [e])).state.random = (m.after pre).state.random) := by
  intro m
  have hstart : m.state.random = .ofSeed seed := by
    show Twister.ofSeed (c.randomSeed.getD given) = _
    rw [hseed]
    rfl
  refine ⟨?_, fun pre e post _ => ⟨fun w hroll => ?_, fun hroll => ?_⟩⟩
  · rw [operateAll_eq_after_traceOf, random_after, hstart]
  · have hcount : m.rolls (pre ++ [e]) = m.rolls pre + 1 := by
      rw [rolls_append, rolls, rolls, hroll]
      rfl
    obtain ⟨hrandom, hbyte⟩ := state_happen_of_roll hroll
    have hget : (m.after (pre ++ [e])).state.get w.x =
        (Twister.ofSeed seed).stream (m.rolls pre) &&& w.kk := by
      rw [after_append]
      refine hbyte.trans ?_
      rw [random_after, hstart]
      rfl
    refine ⟨hget, ?_, ?_, hcount, ?_⟩
    · rw [hget, UInt8.le_iff_toNat_le, UInt8.toNat_and]
      exact Nat.and_le_right
    · rw [hget, UInt8.and_assoc, UInt8.and_not_self, UInt8.and_zero]
    · rw [random_after, hstart, hcount]
  · have hcount : m.rolls (pre ++ [e]) = m.rolls pre := by
      rw [rolls_append, rolls, rolls, hroll]
      rfl
    refine ⟨hcount, ?_⟩
    rw [after_append]
    exact random_happen_of_not_roll hroll

/-- A program puts the word `C000` at the end of the memory and jumps there. The step that executes
it draws a byte, although the program counter then stands behind the last address and nothing is
left of the byte; a reset does not take it back. -/
theorem rolls_take_the_stream_at_last_word :
    let c : Config := { randomSeed := some 7 }
    let m : Machine Nat := c.machine (.ofSeed 7) 1 0
    let ops : List (Operation Nat) :=
      [.act (.loadProgram [0x60, 0xC0, 0xAF, 0xFE, 0xF0, 0x55, 0x1F, 0xFE]), .act (.forceStep 1),
        .act (.forceStep 2), .act (.forceStep 3), .act (.forceStep 4), .act (.forceStep 5),
        .act (.reset 6)]
    let pre := m.traceOf (ops.take 5)
    c.randomSeed = some 7 ∧
      (m.after pre).roll? (.pulse 5) = some 0xC000 ∧ (m.after pre).state.pc = 0xFFE ∧
      (m.after (pre ++ [.pulse 5])).state.get 0 = (Twister.ofSeed 7).stream 0 &&& 0 ∧
      (m.operateAll ops).state.random = (Twister.ofSeed 7).after 1 := by
  intro c m ops pre
  obtain ⟨hroll, hpc, hnone⟩ : (m.after pre).roll? (.pulse 5) = some 0xC000 ∧
      (m.after pre).state.pc = 0xFFE ∧ m.rolls pre = 0 := by decide +kernel
  have htrace : m.traceOf ops = pre ++ .pulse 5 :: [.reset 6] := by rfl
  have hseed : c.randomSeed = some 7 := rfl
  obtain ⟨hrandom, hevents⟩ := rolls_take_the_stream c hseed 0 1 (0 : Nat) ops
  obtain ⟨hbyte, -, -, hone, -⟩ := (hevents pre (.pulse 5) [.reset 6] htrace).1 _ hroll
  have hrolls : m.rolls (m.traceOf ops) = 1 := by
    have hcount : m.rolls (pre ++ [.pulse 5]) = m.rolls pre + 1 := hone
    have hreset : (m.after (pre ++ [.pulse 5])).rolls [.reset 6] = 0 := rfl
    rw [htrace, ← List.singleton_append, ← List.append_assoc, rolls_append, hcount, hnone, hreset]
  refine ⟨hseed, hroll, hpc, ?_, ?_⟩
  · rw [← hnone]
    exact hbyte
  · rw [← hrolls]
    exact hrandom

end Machine

end Chip8
