import Chip8.Config.Build
import Chip8.Proofs.Processor.Sound

set_option autoImplicit false

/-! # Histories of a machine

A host works on a machine by actions (`Action`), one after the other; an action that fails leaves
what it leaves, and the host goes on. What happens to the machine in the course of them is a list
of events (`Event`): one step of the processor is one event, so that an action which takes many
steps is as many events, and one that is refused is none. Both lead to the same machine
(`acts_eq_after_trace`).

A machine is reachable (`Reachable`) if actions lead to it from one that was just built.
-/

namespace Chip8

namespace Machine

/-- What a host can do with a machine. -/
inductive Action (τ : Type) where
  | start
  | stop
  | reset (now : τ)
  | step (now : τ)
  | forceStep (now : τ)
  /-- Up to `count` steps, the clock being read for each of them. -/
  | run (clock : Nat → τ) (count : Nat)
  | loadProgram (data : List Int)
  | loadImage (now : τ) (data : List Int)
  | setKey (given : Value) (pressed : Bool)

/-- What can happen to a machine. -/
inductive Event (τ : Type) where
  | start
  | stop
  | reset (now : τ)
  /-- A step of the processor. -/
  | pulse (now : τ)
  /-- A program is put at the program start, if it fits there. -/
  | write (data : List Int)
  | key (key : Key) (pressed : Bool)

/-- Whether an action resets the machine, unless it is refused. -/
def Action.resets {τ : Type} : Action τ → Bool
  | reset _ => true
  | loadImage _ _ => true
  | _ => false

/-- Whether an event is a reset. -/
def Event.isReset {τ : Type} : Event τ → Bool
  | reset _ => true
  | _ => false

variable {τ : Type} [Sub τ] [LT τ] [DecidableLT τ]

/-- What an action leaves of a machine, whether or not it fails. -/
def act (m : Machine τ) : Action τ → Machine τ
  | .start => m.start
  | .stop => m.stop
  | .reset now => m.reset now
  | .step now => (m.step now).after
  | .forceStep now => (m.forceStep now).after
  | .run clock count => (m.run clock count).after
  | .loadProgram data => (m.loadProgram data).after
  | .loadImage now data => (m.loadImage now data).after
  | .setKey given pressed => (m.setKeyNamed given pressed).after

/-- The machine after actions. -/
def acts (m : Machine τ) (as : List (Action τ)) : Machine τ := as.foldl act m

/-- The machine after an event. -/
def happen (m : Machine τ) : Event τ → Machine τ
  | .start => m.start
  | .stop => m.stop
  | .reset now => m.reset now
  | .pulse now => (m.forceStep now).after
  | .write data => (m.loadProgram data).after
  | .key key pressed => m.setKey key pressed

/-- The machine after events. -/
def after (m : Machine τ) (es : List (Event τ)) : Machine τ := es.foldl happen m

/-- The events of a run of up to `count` steps, the next of which reads `clock k`. -/
def runEvents (clock : Nat → τ) (k : Nat) (m : Machine τ) : Nat → List (Event τ)
  | 0 => []
  | count + 1 =>
    if m.isRunning then
      .pulse (clock k) ::
        match (m.forceStep (clock k)).answer with
        | .error _ => []
        | .ok _ => runEvents clock (k + 1) (m.forceStep (clock k)).after count
    else []

/-- The events of an action. -/
def events (m : Machine τ) : Action τ → List (Event τ)
  | .start => [.start]
  | .stop => [.stop]
  | .reset now => [.reset now]
  | .step now => if m.isRunning then [.pulse now] else []
  | .forceStep now => [.pulse now]
  | .run clock count => runEvents clock 0 m count
  | .loadProgram data => [.write data]
  | .loadImage now data =>
    match Image.check data.length with
    | .error _ => []
    | .ok () => [.reset now, .write data]
  | .setKey given pressed =>
    match Key.ofValue given with
    | .error _ => []
    | .ok key => [.key key pressed]

/-- The events of actions one after the other. -/
def trace (m : Machine τ) : List (Action τ) → List (Event τ)
  | [] => []
  | a :: as => m.events a ++ (m.act a).trace as

/-- A machine that a host can be in front of. -/
inductive Reachable (c : Config) : Machine τ → Prop where
  | built (random : Twister) (period now : τ) : Reachable c (c.machine random period now)
  | act {m : Machine τ} (a : Action τ) : Reachable c m → Reachable c (m.act a)

theorem Reachable.acts {c : Config} {m : Machine τ} (h : Reachable c m) (as : List (Action τ)) :
    Reachable c (m.acts as) := by
  induction as generalizing m with
  | nil => exact h
  | cons a as ih => exact ih (h.act a)

theorem Reachable.of_build {c : Config} {seed : Int} {now : Float} {m : Machine Float}
    (h : c.build seed now = .ok m) : Reachable c m := by
  unfold Config.build at h
  split at h
  · cases h
  · cases h
    exact .built _ _ _

/-! ## Steps of a machine -/

theorem exists_eq_ok_of_isOk {α : Type} {answer : Except Fault α} (h : answer.isOk = true) :
    ∃ a, answer = .ok a := by
  cases answer with
  | ok a => exact ⟨a, rfl⟩
  | error e => cases h

section Step

variable (m : Machine τ) (now : τ)

theorem answer_forceStep : (m.forceStep now).answer = (m.processor.step now).answer := by
  unfold forceStep
  cases h : (m.processor.step now).answer with
  | ok snapshot => simp only [h]
  | error e =>
      simp only [h]
      split <;> rfl

theorem processor_forceStep :
    (m.forceStep now).after.processor = (m.processor.step now).after := by
  unfold forceStep
  cases h : (m.processor.step now).answer with
  | ok snapshot => simp only [h]
  | error e =>
      simp only [h]
      split <;> rfl

/-- A step that does not fail leaves the phase as it was. -/
theorem forceStep_of_ok {r : Snapshot} (h : (m.processor.step now).answer = .ok r) :
    m.forceStep now =
      { answer := .ok r
        after := { m with processor := (m.processor.step now).after }
        log := (m.processor.step now).log } := by
  simp only [forceStep, h]

/-- A change of the processor that its step commutes with, and that does not move the program
counter, is one that the step of the machine commutes with. -/
theorem forceStep_mapProcessor {f : Processor τ → Processor τ}
    (hstep : (f m.processor).step now = (m.processor.step now).map f id)
    (hpc : ∀ p, (f p).state.pc = p.state.pc) :
    (m.mapProcessor f).forceStep now = (m.forceStep now).map (·.mapProcessor f) id := by
  have hstep' : (m.mapProcessor f).processor.step now = (m.processor.step now).map f id := hstep
  unfold forceStep
  rw [hstep']
  obtain ⟨answer, after, log⟩ := m.processor.step now
  cases answer with
  | ok snapshot => rfl
  | error e =>
      have hafter : (f after).state.pc = after.state.pc := hpc after
      dsimp only [Outcome.map, Except.map]
      rw [hafter]
      split <;> rfl

/-- A step of a machine that runs is a step whether or not it runs. -/
theorem step_of_isRunning (h : m.isRunning = true) :
    m.step now = (m.forceStep now).map id some := by
  rw [step, if_pos h]

theorem answer_step_of_isRunning (h : m.isRunning = true) :
    (m.step now).answer = (m.processor.step now).answer.map some := by
  rw [step_of_isRunning m now h, ← answer_forceStep]
  rfl

end Step

/-! ## Actions and their events -/

theorem after_append (m : Machine τ) (es fs : List (Event τ)) :
    m.after (es ++ fs) = (m.after es).after fs := List.foldl_append

theorem after_cons (m : Machine τ) (e : Event τ) (es : List (Event τ)) :
    m.after (e :: es) = (m.happen e).after es := rfl

theorem acts_cons (m : Machine τ) (a : Action τ) (as : List (Action τ)) :
    m.acts (a :: as) = (m.act a).acts as := rfl

theorem acts_append (m : Machine τ) (as bs : List (Action τ)) :
    m.acts (as ++ bs) = (m.acts as).acts bs := List.foldl_append

/-- A run that a fault has stopped does not go on. -/
theorem runFrom_error (clock : Nat → τ) (k : Nat) (e : Fault) (m : Machine τ)
    (log : Array Record) (count : Nat) :
    runFrom clock k ⟨.error e, m, log⟩ count = ⟨.error e, m, log⟩ := by
  cases count <;> rfl

theorem runFrom_eq_after_runEvents (clock : Nat → τ) (k : Nat) (last : Option Snapshot)
    (m : Machine τ) (log : Array Record) (count : Nat) :
    (runFrom clock k ⟨.ok last, m, log⟩ count).after = m.after (runEvents clock k m count) := by
  -- the outcome carries the machine on, and a fault in it ends the run
  induction count generalizing k last m log with
  | zero => rfl
  | succ count ih =>
      rw [runFrom, runEvents]
      by_cases hrun : m.isRunning = true
      · simp only [hrun, if_true, step_of_isRunning m (clock k) hrun, after_cons]
        cases ho : m.forceStep (clock k) with
        | mk answer next records =>
            have hnext : m.happen (.pulse (clock k)) = next := congrArg Outcome.after ho
            rw [hnext]
            cases answer with
            | error e => exact congrArg Outcome.after (runFrom_error clock (k + 1) e next _ count)
            | ok snapshot => exact ih (k + 1) (some snapshot) next _
      · rw [if_neg hrun, if_neg hrun]
        rfl

theorem act_eq_after_events (m : Machine τ) (a : Action τ) : m.act a = m.after (m.events a) := by
  cases a with
  | start => rfl
  | stop => rfl
  | reset now => rfl
  | forceStep now => rfl
  | loadProgram data => rfl
  | run clock count => exact runFrom_eq_after_runEvents clock 0 none m _ count
  | step now =>
      show (m.step now).after = m.after (if m.isRunning then [.pulse now] else [])
      by_cases hrun : m.isRunning = true
      · rw [if_pos hrun, step_of_isRunning m now hrun]
        rfl
      · rw [if_neg hrun, step, if_neg hrun]
        rfl
  | loadImage now data =>
      show (m.loadImage now data).after = _
      rw [loadImage, events]
      cases Image.check data.length <;> rfl
  | setKey given pressed =>
      show (m.setKeyNamed given pressed).after = _
      rw [setKeyNamed, events]
      cases Key.ofValue given <;> rfl

theorem acts_eq_after_trace (m : Machine τ) (as : List (Action τ)) :
    m.acts as = m.after (m.trace as) := by
  induction as generalizing m with
  | nil => rfl
  | cons a as ih =>
      rw [trace, after_append, ← act_eq_after_events, ← ih]
      rfl

/-! ## Tests along a list of events -/

/-- Whether no event of a list passes a test at the moment when it happens. -/
def Never (test : Machine τ → Event τ → Bool) (m : Machine τ) (es : List (Event τ)) : Prop :=
  ∀ pre e post, es = pre ++ e :: post → test (m.after pre) e = false

theorem never_nil {test : Machine τ → Event τ → Bool} {m : Machine τ} : Never test m [] := by
  intro pre e post hes
  cases pre <;> cases hes

theorem never_cons_iff {test : Machine τ → Event τ → Bool} {m : Machine τ} {e : Event τ}
    {es : List (Event τ)} :
    Never test m (e :: es) ↔ test m e = false ∧ Never test (m.happen e) es := by
  constructor
  · intro h
    refine ⟨h [] e es rfl, ?_⟩
    intro pre d post hes
    exact h (e :: pre) d post (by rw [hes]; rfl)
  · rintro ⟨he, h⟩ pre d post hes
    cases pre with
    | nil =>
        cases hes
        exact he
    | cons f pre =>
        cases hes
        exact h pre d post rfl

theorem never_append_iff {test : Machine τ → Event τ → Bool} {m : Machine τ}
    {es fs : List (Event τ)} :
    Never test m (es ++ fs) ↔ Never test m es ∧ Never test (m.after es) fs := by
  induction es generalizing m with
  | nil => exact ⟨fun h => ⟨never_nil, h⟩, fun h => h.2⟩
  | cons e es ih =>
      rw [List.cons_append, never_cons_iff, never_cons_iff, ih, and_assoc]
      rfl

instance decidableNever (test : Machine τ → Event τ → Bool) :
    (m : Machine τ) → (es : List (Event τ)) → Decidable (Never test m es)
  | _, [] => isTrue never_nil
  | m, e :: es =>
    have := decidableNever test (m.happen e) es
    decidable_of_iff _ never_cons_iff.symm

end Machine

end Chip8
