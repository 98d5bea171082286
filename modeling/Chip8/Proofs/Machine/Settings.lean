import Chip8.Proofs.Machine.Execution
import Chip8.Proofs.Machine.Load
import Chip8.Proofs.Machine.Observation
import Chip8.Proofs.Processor.Settings

set_option autoImplicit false

/-! # Machines under other settings

Two machines are built from configurations that differ in the edges of the screen and in the depth
of the stack, the second stack being at least as deep. A host does the same with both. As long as
the first machine comes upon no edge (`meetsEdge`), it cannot tell them apart: every operation shows
it the same, and the machines differ in nothing but these settings afterwards
(`history_withSettings`).

What is shown to commute with a change of the settings is first a step, then the steps of a run, and
then every operation.
-/

namespace Chip8

/-- A change of the state and one of the answer do not concern each other. -/
theorem Outcome.map_map_comm {σ τ α β : Type} (o : Outcome σ α) (f : σ → τ) (g : α → β) :
    (o.map f id).map id g = (o.map id g).map f id := by
  obtain ⟨answer, after, log⟩ := o
  cases answer <;> rfl

namespace Machine

/-- What a host can do with a machine: an action, or loading an image from a file. -/
inductive Operation (τ : Type) where
  | act (a : Action τ)
  | loadFile (now : τ) (path : String) (contents : FileContents)

/-- The machine under other settings. -/
def withSettings {τ : Type} (m : Machine τ) (wrap : Bool) (depth : Nat) : Machine τ :=
  m.mapProcessor (·.withSettings wrap depth)

/-- Whether an event is a step whose instruction comes upon an edge. -/
def meetsEdge {τ : Type} (m : Machine τ) : Event τ → Bool
  | .pulse _ => m.next?.any (·.meetsEdge m.state)
  | _ => false

/-! ## Operations that execute nothing -/

section Still

variable {τ : Type} (m : Machine τ) (wrap : Bool) (depth : Nat)

theorem loadProgram_withSettings (data : List Int) :
    (m.withSettings wrap depth).loadProgram data =
      (m.loadProgram data).map (·.withSettings wrap depth) id := by
  have hmemory : (m.withSettings wrap depth).state.memory = m.state.memory := rfl
  unfold loadProgram
  rw [hmemory]
  by_cases hbytes : data.all isByte = true
  · rw [if_pos hbytes, if_pos hbytes]
    cases m.state.memory.load programStart data <;> rfl
  · rw [if_neg hbytes, if_neg hbytes]
    rfl

/-- A reset keeps the settings, so that an image is loaded under them. -/
theorem loadImage_withSettings (now : τ) (data : List Int) :
    (m.withSettings wrap depth).loadImage now data =
      (m.loadImage now data).map (·.withSettings wrap depth) id := by
  unfold loadImage
  cases Image.check data.length with
  | error e => rfl
  | ok u => exact loadProgram_withSettings (m.reset now) wrap depth data

theorem loadFile_withSettings (now : τ) (path : String) (contents : FileContents) :
    (m.withSettings wrap depth).loadFile now path contents =
      (m.loadFile now path contents).map (·.withSettings wrap depth) id := by
  unfold loadFile
  cases Image.ofFile path contents with
  | error e => rfl
  | ok r =>
      dsimp only
      rw [loadImage_withSettings]
      rfl

/-- A file is checked as its image is. -/
theorem after_loadFile (now : τ) (path : String) (bytes : List UInt8) :
    (m.loadFile now path (.ok bytes)).after = (m.loadImage now (Image.values bytes)).after := by
  have hfile : Image.ofFile path (.ok bytes) =
      (Image.check bytes.length).map fun _ => (bytes, .imageRead path bytes.length) := rfl
  unfold loadFile
  rw [hfile]
  cases hcheck : Image.check bytes.length with
  | error e =>
      rw [loadImage, Image.length_values, hcheck]
      rfl
  | ok u => rfl

theorem setKey_withSettings (key : Key) (pressed : Bool) :
    (m.withSettings wrap depth).setKey key pressed =
      (m.setKey key pressed).withSettings wrap depth := by
  have hset := m.processor.setKey_withSettings key pressed m.isRunning wrap depth
  exact congrArg (fun p => ({ m with processor := p } : Machine τ)) hset

theorem setKeyNamed_withSettings (given : Value) (pressed : Bool) :
    (m.withSettings wrap depth).setKeyNamed given pressed =
      (m.setKeyNamed given pressed).map (·.withSettings wrap depth) id := by
  unfold setKeyNamed
  cases Key.ofValue given with
  | error e => rfl
  | ok key =>
      dsimp only
      rw [setKey_withSettings]
      rfl

end Still

variable {τ : Type} [Sub τ] [LT τ] [DecidableLT τ]

/-- What an operation gives and leaves. -/
def operate (m : Machine τ) : Operation τ → Outcome (Machine τ) (Option Snapshot)
  | .act a => m.outcome a
  | .loadFile now path contents => (m.loadFile now path contents).map id fun _ => none

/-- The events of an operation. A file that is loaded is an image that is. -/
def eventsOf (m : Machine τ) : Operation τ → List (Event τ)
  | .act a => m.events a
  | .loadFile _ _ (.error _) => []
  | .loadFile now _ (.ok bytes) => m.events (.loadImage now (Image.values bytes))

/-- The events of operations one after the other. -/
def traceOf (m : Machine τ) : List (Operation τ) → List (Event τ)
  | [] => []
  | op :: ops => m.eventsOf op ++ (m.operate op).after.traceOf ops

/-- What a host sees of each of several operations, and the machine that it leaves. -/
def history (m : Machine τ) : List (Operation τ) → List (Observation × Machine τ)
  | [] => []
  | op :: ops =>
    (.ofOutcome (m.operate op), (m.operate op).after) :: (m.operate op).after.history ops

/-! ## Steps -/

section Steps

variable {m : Machine τ} {maxDepth depth : Nat}

omit [Sub τ] [LT τ] [DecidableLT τ] in
theorem keepsInside_of_meetsEdge {now : τ} (h : m.meetsEdge (.pulse now) = false) :
    m.processor.KeepsInside := by
  intro hm w hw
  have hnext : m.next? = some (Instruction.decode w) := next?_eq_some_iff.2 ⟨hm, w, hw, rfl⟩
  change m.next?.any (·.meetsEdge m.state) = false at h
  rw [hnext] at h
  exact h

theorem forceStep_withSettings (hm : m.processor.Sound maxDepth) (hdepth : maxDepth ≤ depth)
    {now : τ} (hedge : m.meetsEdge (.pulse now) = false) (wrap : Bool) :
    (m.withSettings wrap depth).forceStep now =
      (m.forceStep now).map (·.withSettings wrap depth) id :=
  forceStep_mapProcessor m now
    (Processor.step_withSettings hm hdepth (keepsInside_of_meetsEdge hedge) wrap now) fun _ => rfl

/-- A machine that does not run takes no step, and comes upon no edge. -/
theorem step_withSettings (hm : m.processor.Sound maxDepth) (hdepth : maxDepth ≤ depth)
    {now : τ} (hedge : m.isRunning = true → m.meetsEdge (.pulse now) = false) (wrap : Bool) :
    (m.withSettings wrap depth).step now = (m.step now).map (·.withSettings wrap depth) id := by
  have hrunning : (m.withSettings wrap depth).isRunning = m.isRunning := rfl
  unfold step
  rw [hrunning]
  by_cases hrun : m.isRunning = true
  · rw [if_pos hrun, if_pos hrun, forceStep_withSettings hm hdepth (hedge hrun)]
    exact Outcome.map_map_comm _ _ _
  · rw [if_neg hrun, if_neg hrun]
    rfl

theorem runFrom_withSettings (hm : m.processor.Sound maxDepth) (hdepth : maxDepth ≤ depth)
    {clock : Nat → τ} {k count : Nat} (hnever : Never meetsEdge m (runEvents clock k m count))
    (wrap : Bool) (last : Option Snapshot) (log : Array Record) :
    runFrom clock k ⟨.ok last, m.withSettings wrap depth, log⟩ count =
      (runFrom clock k ⟨.ok last, m, log⟩ count).map (·.withSettings wrap depth) id := by
  induction count generalizing k m last log with
  | zero => rfl
  | succ count ih =>
      have hrunning : (m.withSettings wrap depth).isRunning = m.isRunning := rfl
      rw [runFrom, runFrom, hrunning]
      rw [runEvents] at hnever
      by_cases hrun : m.isRunning = true
      · rw [if_pos hrun] at hnever
        obtain ⟨hedge, hrest⟩ := never_cons_iff.1 hnever
        have hsound : (m.forceStep (clock k)).after.processor.Sound maxDepth :=
          sound_happen hm (.pulse (clock k))
        have hstep := step_withSettings hm hdepth (fun _ => hedge) wrap
        rw [if_pos hrun, if_pos hrun, hstep, step_of_isRunning m (clock k) hrun]
        change Never meetsEdge (m.forceStep (clock k)).after _ at hrest
        cases ho : m.forceStep (clock k) with
        | mk answer next records =>
            rw [ho] at hsound hrest
            cases answer with
            | error e =>
                -- a fault ends both runs
                dsimp only [Outcome.map, Except.map]
                rw [runFrom_error, runFrom_error]
            | ok snapshot => exact ih hsound hrest (some snapshot) (log ++ records)
      · rw [if_neg hrun, if_neg hrun]
        rfl

end Steps

/-! ## Operations one after the other -/

section Operations

variable {m : Machine τ}

theorem after_operate (m : Machine τ) (op : Operation τ) :
    (m.operate op).after = m.after (m.eventsOf op) := by
  cases op with
  | act a => exact (after_outcome m a).trans (act_eq_after_events m a)
  | loadFile now path contents =>
      cases contents with
      | error problem =>
          show (m.loadFile now path (.error problem)).after = m
          unfold loadFile
          cases problem <;> rfl
      | ok bytes =>
          show (m.loadFile now path (.ok bytes)).after =
            m.after (m.events (.loadImage now (Image.values bytes)))
          rw [after_loadFile, ← act_eq_after_events]
          rfl

theorem operate_withSettings {maxDepth depth : Nat} (hm : m.processor.Sound maxDepth)
    (hdepth : maxDepth ≤ depth) {op : Operation τ} (hnever : Never meetsEdge m (m.eventsOf op))
    (wrap : Bool) :
    (m.withSettings wrap depth).operate op =
      (m.operate op).map (·.withSettings wrap depth) id := by
  cases op with
  | loadFile now path contents =>
      rw [operate, loadFile_withSettings]
      exact Outcome.map_map_comm _ _ _
  | act a =>
      cases a with
      | start => rfl
      | stop => rfl
      | reset now => rfl
      | step now =>
          -- only a machine that runs has an event here
          refine step_withSettings hm hdepth (fun hrun => ?_) wrap
          change Never meetsEdge m (if m.isRunning then [.pulse now] else []) at hnever
          rw [if_pos hrun] at hnever
          exact (never_cons_iff.1 hnever).1
      | forceStep now =>
          have hedge : m.meetsEdge (.pulse now) = false := (never_cons_iff.1 hnever).1
          rw [operate, outcome, forceStep_withSettings hm hdepth hedge]
          exact Outcome.map_map_comm _ _ _
      | run clock count => exact runFrom_withSettings hm hdepth hnever wrap none #[]
      | loadProgram data =>
          rw [operate, outcome, loadProgram_withSettings]
          exact Outcome.map_map_comm _ _ _
      | loadImage now data =>
          rw [operate, outcome, loadImage_withSettings]
          exact Outcome.map_map_comm _ _ _
      | setKey given pressed =>
          rw [operate, outcome, setKeyNamed_withSettings]
          exact Outcome.map_map_comm _ _ _

omit [Sub τ] [LT τ] [DecidableLT τ] in
/-- A host sees none of the settings. -/
theorem ofOutcome_withSettings (o : Outcome (Machine τ) (Option Snapshot)) (wrap : Bool)
    (depth : Nat) :
    Observation.ofOutcome (o.map (·.withSettings wrap depth) id) = .ofOutcome o := by
  obtain ⟨answer, after, log⟩ := o
  cases answer <;> rfl

theorem history_withSettings {maxDepth depth : Nat} (hm : m.processor.Sound maxDepth)
    (hdepth : maxDepth ≤ depth) {ops : List (Operation τ)}
    (hnever : Never meetsEdge m (m.traceOf ops)) (wrap : Bool) :
    (m.withSettings wrap depth).history ops =
      (m.history ops).map fun e => (e.1, e.2.withSettings wrap depth) := by
  -- what an operation leaves is sound, and comes upon no edge in the operations behind it
  induction ops generalizing m with
  | nil => rfl
  | cons op ops ih =>
      obtain ⟨hop, hops⟩ := never_append_iff.1 hnever
      have hsound : (m.operate op).after.processor.Sound maxDepth := by
        rw [after_operate]
        exact sound_after hm _
      rw [← after_operate] at hops
      rw [history, operate_withSettings hm hdepth hop, ofOutcome_withSettings, history,
        List.map_cons, ← ih hsound hops]
      rfl

/-- **The edges of the screen and the depth of the stack matter only where they are met.** Two
machines are built from configurations that differ in nothing else, the second stack being at least
as deep as the first. If the first machine never calls with a full stack, and never draws a sprite
with a lit dot beyond the grid, then whatever a host does shows it the same on both, and leaves two
machines that differ in nothing else, either. -/
theorem settings_matter_at_edges (c : Config) (wrap : Bool) {depth : Nat}
    (hdepth : c.stackDepth ≤ depth) (random : Twister) (period now : τ) (ops : List (Operation τ))
    (hnever : Never meetsEdge (c.machine random period now)
      ((c.machine random period now).traceOf ops)) :
    (Config.machine { c with spriteWrap := wrap, stackDepth := depth } random period now).history
        ops =
      ((c.machine random period now).history ops).map fun e =>
        (e.1, e.2.withSettings wrap depth) := by
  have hbuilt :
      Config.machine { c with spriteWrap := wrap, stackDepth := depth } random period now =
        (c.machine random period now).withSettings wrap depth := rfl
  rw [hbuilt]
  exact history_withSettings (c.sound_machine random period now) hdepth hnever wrap

/-- A file draws a glyph that hangs over the right edge with its unlit half, in a subroutine. -/
theorem same_history_of_hanging_glyph :
    let c : Config := {}
    let m : Machine Nat := c.machine (.ofSeed 0) 1 0
    let bytes : List UInt8 :=
      [0x60, 0x3C, 0xA0, 0x50, 0x22, 0x08, 0x12, 0x06, 0xD0, 0x15, 0x00, 0xEE]
    let ops : List (Operation Nat) :=
      [.loadFile 0 "glyph.ch8" (.ok bytes), .act .start, .act (.run (fun k => k) 6),
        .act (.setKey (.int 16) true), .act (.step 6)]
    c.stackDepth ≤ 32 ∧ Never meetsEdge m (m.traceOf ops) ∧
      (Config.machine { c with spriteWrap := true, stackDepth := 32 } (.ofSeed 0) 1 0 :
          Machine Nat).history ops =
        (m.history ops).map fun e => (e.1, e.2.withSettings true 32) := by
  intro c m bytes ops
  have hdepth : c.stackDepth ≤ 32 := by decide
  have hnever : Never meetsEdge m (m.traceOf ops) := by decide +kernel
  exact ⟨hdepth, hnever, settings_matter_at_edges c true hdepth (.ofSeed 0) 1 0 ops hnever⟩

end Operations

end Machine

end Chip8
