import Chip8.Proofs.Machine.Halt
import Chip8.Proofs.Machine.Idle
import Chip8.Proofs.Machine.Observation

set_option autoImplicit false

/-! # Batches of steps

A host lets a machine take many steps by calls of any size (`Call`): single steps, and runs. How it
divides the steps among its calls makes no difference (`run_splits`). As long as no step fails, a
run leaves the machine that its steps leave one by one, and gives what the last of them gives. At
the first step that fails the machine halts, and the calls that are left do nothing.

A machine that does not run can be driven by forced steps, which take its processor through the same
states.

The steps of all calls read the clock one after the other. As a step which is left out reads
nothing, a call goes on at the reading behind those that the steps before it have taken
(`outcomes`).
-/

namespace Chip8

/-- What an outcome gives and leaves, without what it logs. -/
def Outcome.result {σ α : Type} (o : Outcome σ α) : Except Fault α × σ := (o.answer, o.after)

theorem Outcome.answer_of_result {σ α : Type} {o o' : Outcome σ α} (h : o.result = o'.result) :
    o.answer = o'.answer := congrArg Prod.fst h

theorem Outcome.after_of_result {σ α : Type} {o o' : Outcome σ α} (h : o.result = o'.result) :
    o.after = o'.after := congrArg Prod.snd h

namespace Machine

variable {τ : Type} [Sub τ] [LT τ] [DecidableLT τ]

/-- The machine after `k` actions of a kind, the `i`-th of which takes the reading `clock i`. -/
def afterEach (m : Machine τ) (kind : τ → Action τ) (clock : Nat → τ) : Nat → Machine τ
  | 0 => m
  | k + 1 => (m.afterEach kind clock k).act (kind (clock k))

/-- The outcome of the single step that follows `k` others. -/
def stepAt (m : Machine τ) (clock : Nat → τ) (k : Nat) : Outcome (Machine τ) (Option Snapshot) :=
  (m.afterEach .step clock k).step (clock k)

/-- None of the first `count` single steps fails. -/
def NoneFails (m : Machine τ) (clock : Nat → τ) (count : Nat) : Prop :=
  ∀ k < count, ∃ r, (m.stepAt clock k).answer = .ok r

/-- The single step that follows `j` others is the first to fail. -/
structure FirstToFail (m : Machine τ) (clock : Nat → τ) (j : Nat) (e : Fault) : Prop where
  before : m.NoneFails clock j
  fails : (m.stepAt clock j).answer = .error e

/-- A call by which a host lets a machine take steps. -/
inductive Call where
  | step
  /-- Up to `count` steps. -/
  | run (count : Nat)

/-- How many steps a call asks for. -/
def Call.steps : Call → Nat
  | step => 1
  | run count => count

/-- The action of a call whose steps read the clock from its start on. -/
def Call.action (clock : Nat → τ) : Call → Action τ
  | step => .step (clock 0)
  | run count => .run clock count

/-- How many steps calls ask for in all. -/
def totalSteps : List Call → Nat
  | [] => 0
  | call :: calls => call.steps + totalSteps calls

/-- The outcomes of calls one after the other. Every event of a call is a step, which has taken one
reading of the clock. -/
def outcomes (m : Machine τ) (clock : Nat → τ) :
    List Call → List (Outcome (Machine τ) (Option Snapshot))
  | [] => []
  | call :: calls =>
    m.outcome (call.action clock) ::
      (m.act (call.action clock)).outcomes
        (fun i => clock ((m.events (call.action clock)).length + i)) calls

/-! ## Single steps -/

section Steps

variable {m : Machine τ} {clock : Nat → τ}

theorem afterEach_add (m : Machine τ) (kind : τ → Action τ) (clock : Nat → τ) (a b : Nat) :
    (m.afterEach kind clock a).afterEach kind (fun i => clock (a + i)) b =
      m.afterEach kind clock (a + b) := by
  induction b with
  | zero => rfl
  | succ b ih => exact congrArg (fun n => n.act (kind (clock (a + b)))) ih

theorem stepAt_add (m : Machine τ) (clock : Nat → τ) (a b : Nat) :
    (m.afterEach .step clock a).stepAt (fun i => clock (a + i)) b = m.stepAt clock (a + b) := by
  rw [stepAt, afterEach_add]
  rfl

theorem NoneFails.mono {a b : Nat} (h : m.NoneFails clock b) (hab : a ≤ b) : m.NoneFails clock a :=
  fun k hk => h k (Nat.lt_of_lt_of_le hk hab)

theorem NoneFails.drop {a b : Nat} (h : m.NoneFails clock (a + b)) :
    (m.afterEach .step clock a).NoneFails (fun i => clock (a + i)) b := by
  intro k hk
  rw [stepAt_add]
  exact h (a + k) (Nat.add_lt_add_left hk a)

theorem FirstToFail.drop {a j : Nat} {e : Fault} (h : m.FirstToFail clock (a + j) e) :
    (m.afterEach .step clock a).FirstToFail (fun i => clock (a + i)) j e :=
  ⟨h.before.drop, by rw [stepAt_add]; exact h.fails⟩

/-- A step of a machine that runs fails if that of its processor does. -/
theorem exists_snapshot (hrun : m.isRunning = true) {now : τ} {r : Option Snapshot}
    (h : (m.step now).answer = .ok r) :
    ∃ snapshot, (m.processor.step now).answer = .ok snapshot := by
  rw [answer_step_of_isRunning m now hrun] at h
  cases hs : (m.processor.step now).answer with
  | ok snapshot => exact ⟨snapshot, rfl⟩
  | error e =>
      rw [hs] at h
      cases h

/-- A step that does not fail leaves the phase as it was. -/
theorem phase_step {now : τ} {r : Option Snapshot} (h : (m.step now).answer = .ok r) :
    (m.step now).after.phase = m.phase := by
  cases hrun : m.isRunning with
  | false => rw [step_of_stopped hrun]
  | true =>
      obtain ⟨snapshot, hs⟩ := exists_snapshot hrun h
      rw [step_of_isRunning m now hrun, forceStep_of_ok m now hs]
      rfl

/-- A machine runs through all steps that do not fail. -/
theorem isRunning_afterEach (hrun : m.isRunning = true) {k : Nat} (h : m.NoneFails clock k) :
    (m.afterEach .step clock k).isRunning = true := by
  induction k with
  | zero => exact hrun
  | succ k ih =>
      obtain ⟨r, hr⟩ := h k (Nat.lt_succ_self k)
      have hphase : (m.afterEach .step clock (k + 1)).phase = (m.afterEach .step clock k).phase :=
        phase_step hr
      rw [isRunning, hphase]
      exact ih (h.mono (Nat.le_succ k))

/-- Steps of a machine that does not run leave it as it is. -/
theorem afterEach_of_stopped (hstop : m.isRunning = false) (k : Nat) :
    m.afterEach .step clock k = m := by
  induction k with
  | zero => rfl
  | succ k ih =>
      show ((m.afterEach .step clock k).step (clock k)).after = m
      rw [ih, step_of_stopped hstop]

theorem FirstToFail.isRunning {j : Nat} {e : Fault} (h : m.FirstToFail clock j e) :
    m.isRunning = true := by
  cases hrun : m.isRunning with
  | true => rfl
  | false =>
      have hfails := h.fails
      rw [stepAt, afterEach_of_stopped hrun, step_of_stopped hrun] at hfails
      cases hfails

end Steps

/-! ## Runs -/

section Runs

variable {m : Machine τ} {clock : Nat → τ}

theorem result_run_succ {k : Nat} {last : Option Snapshot}
    (h : (m.run clock k).answer = .ok last) (hrun : (m.run clock k).after.isRunning = true) :
    (m.run clock (k + 1)).result = ((m.run clock k).after.step (clock k)).result := by
  rw [run_succ_of_running h hrun]
  rfl

/-- A run none of whose steps fails leaves what they leave one by one. -/
theorem run_of_noneFails (hrun : m.isRunning = true) {k : Nat} (h : m.NoneFails clock k) :
    (m.run clock k).after = m.afterEach .step clock k ∧
      ∃ last, (m.run clock k).answer = .ok last := by
  induction k with
  | zero => exact ⟨rfl, none, rfl⟩
  | succ k ih =>
      have hbefore := h.mono (Nat.le_succ k)
      obtain ⟨hafter, last, hlast⟩ := ih hbefore
      obtain ⟨r, hr⟩ := h k (Nat.lt_succ_self k)
      have hresult := result_run_succ hlast (by rw [hafter]; exact isRunning_afterEach hrun hbefore)
      rw [hafter] at hresult
      exact ⟨Outcome.after_of_result hresult, r, (Outcome.answer_of_result hresult).trans hr⟩

/-- If all steps before it pass, the last step of a run decides what the run gives and leaves. -/
theorem result_run_eq_stepAt (hrun : m.isRunning = true) {k : Nat} (h : m.NoneFails clock k) :
    (m.run clock (k + 1)).result = (m.stepAt clock k).result := by
  obtain ⟨hafter, last, hlast⟩ := run_of_noneFails hrun h
  rw [result_run_succ hlast (by rw [hafter]; exact isRunning_afterEach hrun h), hafter]
  rfl

/-- A run ends at the first of its steps that fails. -/
theorem result_run_of_firstToFail {j count : Nat} {e : Fault} (h : m.FirstToFail clock j e)
    (hj : j < count) : (m.run clock count).result = (m.stepAt clock j).result := by
  obtain ⟨d, rfl⟩ := Nat.exists_eq_add_of_lt hj
  induction d with
  | zero => exact result_run_eq_stepAt h.isRunning h.before
  | succ d ih =>
      have hresult := ih (by omega)
      have herror : (m.run clock (j + d + 1)).answer = .error e :=
        (Outcome.answer_of_result hresult).trans h.fails
      have hsucc : m.run clock (j + (d + 1) + 1) = m.run clock (j + d + 1) :=
        run_succ_of_error herror
      rw [hsucc, hresult]

/-- Every step of a run that does not fail reads the clock. -/
theorem length_runEvents (hrun : m.isRunning = true) (k : Nat) {count : Nat}
    (h : m.NoneFails (fun i => clock (k + i)) count) :
    (runEvents clock k m count).length = count := by
  induction count generalizing m k with
  | zero => rfl
  | succ count ih =>
      -- the first step passes, and the others are those of the machine after it
      rw [Nat.add_comm] at h
      obtain ⟨r, hr⟩ := h 0 (by omega)
      have hrest := h.drop
      have hclock : (fun i => clock (k + (1 + i))) = fun i => clock (k + 1 + i) := by
        funext i
        rw [Nat.add_assoc]
      have hnext :
          m.afterEach .step (fun i => clock (k + i)) 1 = (m.forceStep (clock k)).after := by
        show (m.step (clock k)).after = _
        rw [step_of_isRunning m (clock k) hrun]
        rfl
      have hrunning := isRunning_afterEach hrun (h.mono (Nat.le_add_right 1 count))
      rw [hnext] at hrest hrunning
      rw [hclock] at hrest
      obtain ⟨snapshot, hs⟩ := exists_snapshot hrun hr
      have hforce : (m.forceStep (clock k)).answer = .ok snapshot :=
        (answer_forceStep m (clock k)).trans hs
      rw [runEvents, if_pos hrun, hforce]
      show (runEvents clock (k + 1) _ count).length + 1 = count + 1
      rw [ih hrunning (k + 1) hrest]

end Runs

/-! ## Calls -/

section Calls

variable {m : Machine τ} {clock : Nat → τ}

/-- A single step gives and leaves what a run of one step does. -/
theorem result_action (m : Machine τ) (clock : Nat → τ) (call : Call) :
    (m.outcome (call.action clock)).result = (m.run clock call.steps).result := by
  cases call with
  | run count => rfl
  | step =>
      show (m.step (clock 0)).result = (m.run clock 1).result
      cases hrun : m.isRunning with
      | false => rw [step_of_stopped hrun, run_of_stopped hrun]
      | true => exact (result_run_succ (k := 0) rfl hrun).symm

theorem outcome_of_stopped (hstop : m.isRunning = false) (clock : Nat → τ) (call : Call) :
    m.outcome (call.action clock) = { answer := .ok none, after := m } := by
  cases call with
  | step => exact step_of_stopped hstop (clock 0)
  | run count => exact run_of_stopped hstop clock count

/-- Calls to a machine that does not run do nothing. -/
theorem outcomes_of_stopped (hstop : m.isRunning = false) (clock : Nat → τ) (calls : List Call) :
    m.outcomes clock calls = calls.map fun _ => { answer := .ok none, after := m } := by
  induction calls generalizing clock with
  | nil => rfl
  | cons call calls ih =>
      have hone := outcome_of_stopped hstop clock call
      have hact : m.act (call.action clock) = m := by rw [← after_outcome, hone]
      rw [outcomes, hact, hone, ih, List.map_cons]

theorem length_events_action (hrun : m.isRunning = true) {call : Call}
    (h : m.NoneFails clock call.steps) : (m.events (call.action clock)).length = call.steps := by
  cases call with
  | run count =>
      refine length_runEvents hrun 0 ?_
      have hclock : (fun i => clock (0 + i)) = clock := by
        funext i
        rw [Nat.zero_add]
      rw [hclock]
      exact h
  | step =>
      show (if m.isRunning then [Event.pulse (clock 0)] else []).length = 1
      rw [if_pos hrun]
      rfl

/-- Calls go on where single steps would. -/
theorem outcomes_cons (hrun : m.isRunning = true) {call : Call} (h : m.NoneFails clock call.steps)
    (calls : List Call) :
    m.outcomes clock (call :: calls) =
      m.outcome (call.action clock) ::
        (m.afterEach .step clock call.steps).outcomes (fun i => clock (call.steps + i)) calls := by
  have hact : m.act (call.action clock) = m.afterEach .step clock call.steps := by
    rw [← after_outcome]
    exact (Outcome.after_of_result (result_action m clock call)).trans (run_of_noneFails hrun h).1
  rw [outcomes, hact, length_events_action hrun h]

/-- A call none of whose steps fails gives an answer. -/
theorem answer_action (hrun : m.isRunning = true) {call : Call} (h : m.NoneFails clock call.steps) :
    ∃ r, (m.outcome (call.action clock)).answer = .ok r := by
  obtain ⟨last, hlast⟩ := (run_of_noneFails hrun h).2
  exact ⟨last, (Outcome.answer_of_result (result_action m clock call)).trans hlast⟩

theorem totalSteps_append (calls calls' : List Call) :
    totalSteps (calls ++ calls') = totalSteps calls + totalSteps calls' := by
  induction calls with
  | nil => exact (Nat.zero_add _).symm
  | cons call calls ih =>
      rw [List.cons_append, totalSteps, totalSteps, ih, Nat.add_assoc]

/-- The last of calls none of whose steps fails gives and leaves what the last step does. -/
theorem outcomes_of_noneFails (hrun : m.isRunning = true) {calls : List Call} {last : Call}
    (hlast : 1 ≤ last.steps) {k : Nat} (htotal : totalSteps (calls ++ [last]) = k + 1)
    (h : m.NoneFails clock (k + 1)) :
    ∃ os o, m.outcomes clock (calls ++ [last]) = os ++ [o] ∧
      (∀ p ∈ os, ∃ r, p.answer = .ok r) ∧ o.result = (m.stepAt clock k).result := by
  induction calls generalizing m clock k with
  | nil =>
      have hsteps : last.steps = k + 1 := htotal
      refine ⟨[], m.outcome (last.action clock), rfl, fun p hp => absurd hp List.not_mem_nil, ?_⟩
      rw [result_action, hsteps]
      exact result_run_eq_stepAt hrun (h.mono (Nat.le_succ k))
  | cons call calls ih =>
      -- the calls behind the first one still ask for a step
      have hrest : totalSteps (calls ++ [last]) = totalSteps calls + last.steps :=
        totalSteps_append calls [last]
      rw [List.cons_append, totalSteps] at htotal
      obtain ⟨k', hk'⟩ : ∃ k', totalSteps (calls ++ [last]) = k' + 1 :=
        Nat.exists_eq_succ_of_ne_zero (by omega)
      obtain rfl : k = call.steps + k' := by omega
      have hcall : m.NoneFails clock call.steps := h.mono (by omega)
      have hdrop := NoneFails.drop (a := call.steps) (b := k' + 1) h
      obtain ⟨os, o, hos, hpass, ho⟩ := ih (isRunning_afterEach hrun hcall) hk' hdrop
      refine ⟨m.outcome (call.action clock) :: os, o, ?_, ?_, ?_⟩
      · rw [List.cons_append, outcomes_cons hrun hcall, hos]
        rfl
      · exact List.forall_mem_cons.2 ⟨answer_action hrun hcall, hpass⟩
      · rw [ho, stepAt_add]

/-- The call that comes to the first step which fails gives and leaves what that step does, and the
calls behind it do nothing. -/
theorem outcomes_of_firstToFail {calls : List Call} {j : Nat} {e : Fault}
    (h : m.FirstToFail clock j e) (hj : j < totalSteps calls)
    (hhalts : (m.stepAt clock j).after.isRunning = false) :
    ∃ pre o post, m.outcomes clock calls = pre ++ o :: post ∧
      (∀ p ∈ pre, ∃ r, p.answer = .ok r) ∧ o.result = (m.stepAt clock j).result ∧
      ∀ p ∈ post, p = { answer := .ok none, after := o.after } := by
  induction calls generalizing m clock j with
  | nil => cases hj
  | cons call calls ih =>
      rw [totalSteps] at hj
      by_cases hcall : j < call.steps
      · have hresult : (m.outcome (call.action clock)).result = (m.stepAt clock j).result :=
          (result_action m clock call).trans (result_run_of_firstToFail h hcall)
        have hafter : m.act (call.action clock) = (m.stepAt clock j).after := by
          rw [← after_outcome]
          exact Outcome.after_of_result hresult
        refine ⟨[], _, _, rfl, fun p hp => absurd hp List.not_mem_nil, hresult, ?_⟩
        rw [hafter, outcomes_of_stopped hhalts, after_outcome, hafter]
        intro p hp
        obtain ⟨_, _, rfl⟩ := List.mem_map.1 hp
        rfl
      · obtain ⟨i, rfl⟩ := Nat.exists_eq_add_of_le (Nat.le_of_not_lt hcall)
        have hbefore : m.NoneFails clock call.steps := h.before.mono (Nat.le_add_right _ _)
        have hrest : i < totalSteps calls := by omega
        obtain ⟨pre, o, post, hos, hpass, ho, hpost⟩ :=
          ih h.drop hrest (by rw [stepAt_add]; exact hhalts)
        refine ⟨m.outcome (call.action clock) :: pre, o, post, ?_, ?_, ?_, hpost⟩
        · rw [outcomes_cons h.isRunning hbefore, hos]
          rfl
        · exact List.forall_mem_cons.2 ⟨answer_action h.isRunning hbefore, hpass⟩
        · rw [ho, stepAt_add]

end Calls

/-! ## Forced steps -/

section Forced

variable {m : Machine τ} {clock : Nat → τ}

/-- A forced step goes the way of a step that does not fail, in whatever phase. -/
theorem forceStep_of_step (hrun : m.isRunning = true) {now : τ} {r : Option Snapshot}
    (h : (m.step now).answer = .ok r) (phase : Phase) :
    (∃ snapshot, (({ m with phase } : Machine τ).forceStep now).answer = .ok snapshot) ∧
      (({ m with phase } : Machine τ).forceStep now).after =
        { (m.step now).after with phase } := by
  obtain ⟨snapshot, hs⟩ := exists_snapshot hrun h
  rw [step_of_isRunning m now hrun, forceStep_of_ok m now hs,
    forceStep_of_ok { m with phase } now hs]
  exact ⟨⟨snapshot, rfl⟩, rfl⟩

theorem afterEach_forceStep (hrun : m.isRunning = true) (phase : Phase) {k : Nat}
    (h : m.NoneFails clock k) :
    ({ m with phase } : Machine τ).afterEach .forceStep clock k =
      { m.afterEach .step clock k with phase } := by
  induction k with
  | zero => rfl
  | succ k ih =>
      have hbefore := h.mono (Nat.le_succ k)
      obtain ⟨r, hr⟩ := h k (Nat.lt_succ_self k)
      show ((({ m with phase } : Machine τ).afterEach .forceStep clock k).forceStep
        (clock k)).after = _
      rw [ih hbefore]
      exact (forceStep_of_step (isRunning_afterEach hrun hbefore) hr phase).2

end Forced

/-! ## However the steps are divided -/

/-- The run of `count` steps is as good as the steps one by one, as calls of any size, and as forced
steps of the machine in any phase. -/
structure RunPasses (m : Machine τ) (clock : Nat → τ) (count : Nat) : Prop where
  after : (m.run clock count).after = m.afterEach .step clock count
  answer : ∀ k, k + 1 = count → (m.run clock count).answer = (m.stepAt clock k).answer
  calls : ∀ calls last, 1 ≤ last.steps → totalSteps (calls ++ [last]) = count →
    ∃ os o, m.outcomes clock (calls ++ [last]) = os ++ [o] ∧
      (∀ p ∈ os, ∃ r, p.answer = .ok r) ∧ o.result = (m.run clock count).result
  forced : m.isRunning = true → ∀ phase,
    (∀ k < count, ∃ snapshot,
      ((({ m with phase } : Machine τ).afterEach .forceStep clock k).forceStep
        (clock k)).answer = .ok snapshot) ∧
    ({ m with phase } : Machine τ).afterEach .forceStep clock count =
      { (m.run clock count).after with phase }

/-- The run of `count` steps fails as the single step after `j` others does, and so does one of the
calls that ask for as many steps. The calls before it give an answer, and those behind it do
nothing. -/
structure RunFails (m : Machine τ) (clock : Nat → τ) (count j : Nat) (e : Fault) : Prop where
  answer : (m.run clock count).answer = .error e
  after : (m.run clock count).after = (m.stepAt clock j).after
  phase : (m.run clock count).after.phase = .halted
  calls : ∀ calls, totalSteps calls = count →
    ∃ pre o post, m.outcomes clock calls = pre ++ o :: post ∧
      (∀ p ∈ pre, ∃ r, p.answer = .ok r) ∧ o.result = (m.run clock count).result ∧
      ∀ p ∈ post, p = { answer := .ok none, after := o.after }

theorem runPasses_of_stopped {m : Machine τ} (hstop : m.isRunning = false) (clock : Nat → τ)
    (count : Nat) : RunPasses m clock count := by
  have hresult := run_of_stopped hstop clock count
  refine ⟨?_, ?_, ?_, fun hrun => ?_⟩
  · rw [hresult, afterEach_of_stopped hstop]
  · intro k _
    rw [hresult, stepAt, afterEach_of_stopped hstop, step_of_stopped hstop]
  · intro calls last _ _
    refine ⟨calls.map fun _ => { answer := .ok none, after := m },
      { answer := .ok none, after := m }, ?_, ?_, ?_⟩
    · rw [outcomes_of_stopped hstop, List.map_append]
      rfl
    · intro p hp
      obtain ⟨_, _, rfl⟩ := List.mem_map.1 hp
      exact ⟨none, rfl⟩
    · rw [hresult]
  · rw [hstop] at hrun
    cases hrun

theorem runPasses_of_running {m : Machine τ} (hrun : m.isRunning = true) {clock : Nat → τ}
    {count : Nat} (h : m.NoneFails clock count) : RunPasses m clock count := by
  have hafter := (run_of_noneFails hrun h).1
  have hlast : ∀ k, k + 1 = count → (m.run clock count).result = (m.stepAt clock k).result := by
    rintro k rfl
    exact result_run_eq_stepAt hrun (h.mono (Nat.le_succ k))
  refine ⟨hafter, fun k hk => Outcome.answer_of_result (hlast k hk), ?_, ?_⟩
  · intro calls last hone htotal
    have hsum : totalSteps (calls ++ [last]) = totalSteps calls + last.steps :=
      totalSteps_append calls [last]
    obtain ⟨k, rfl⟩ : ∃ k, count = k + 1 := Nat.exists_eq_succ_of_ne_zero (by omega)
    rw [hlast k rfl]
    exact outcomes_of_noneFails hrun hone htotal h
  · intro _ phase
    refine ⟨fun k hk => ?_, ?_⟩
    · have hbefore := h.mono (Nat.le_of_lt hk)
      obtain ⟨r, hr⟩ := h k hk
      rw [afterEach_forceStep hrun phase hbefore]
      exact (forceStep_of_step (isRunning_afterEach hrun hbefore) hr phase).1
    · rw [afterEach_forceStep hrun phase h, hafter]

theorem Reachable.afterEach {c : Config} {m : Machine τ} (hm : Reachable c m)
    (kind : τ → Action τ) (clock : Nat → τ) (k : Nat) : Reachable c (m.afterEach kind clock k) := by
  induction k with
  | zero => exact hm
  | succ k ih => exact ih.act (kind (clock k))

/-- The first step that fails halts a reachable machine. -/
theorem FirstToFail.halts {c : Config} {m : Machine τ} (hm : Reachable c m) {clock : Nat → τ}
    {j : Nat} {e : Fault} (h : m.FirstToFail clock j e) :
    (m.stepAt clock j).after.phase = .halted := by
  rcases step_passes_or_halts (hm.afterEach .step clock j) (clock j) with hpass | ⟨e', hhalt⟩
  · obtain ⟨r, hr⟩ := hpass.answer
    have hfails := h.fails
    rw [stepAt, hr] at hfails
    cases hfails
  · exact hhalt.phase

theorem runFails {c : Config} {m : Machine τ} (hm : Reachable c m) {clock : Nat → τ} {count j : Nat}
    {e : Fault} (h : m.FirstToFail clock j e) (hj : j < count) : RunFails m clock count j e := by
  have hresult := result_run_of_firstToFail h hj
  have hphase := h.halts hm
  have hafter : (m.run clock count).after = (m.stepAt clock j).after :=
    Outcome.after_of_result hresult
  refine ⟨(Outcome.answer_of_result hresult).trans h.fails, hafter, ?_, ?_⟩
  · rw [hafter]
    exact hphase
  · rintro calls rfl
    rw [hresult]
    refine outcomes_of_firstToFail h hj ?_
    rw [isRunning, hphase]
    rfl

/-- **The size of the batches makes no difference.** Let a reachable machine be asked for `count`
steps, at any readings of the clock.

If none of the single steps fails, then a run of `count` steps leaves what they leave, and answers
as the last of them does. The same do calls that ask for `count` steps in all, such as a run of `a`
steps and one of `b` if `b` is not zero, and each of the calls gives an answer. If the machine runs,
forced steps of the same machine in another phase take its processor to the same state, and leave
the phase.

If the single step after `j` others is the first that fails, then a run of more than `j` steps has
its fault and leaves what it leaves, which is a machine that was halted. So does one of the calls
that ask for as many steps; those before it give an answer, and those behind it do nothing. -/
theorem run_splits {c : Config} {m : Machine τ} (hm : Reachable c m) (clock : Nat → τ)
    (count : Nat) :
    (m.NoneFails clock count → RunPasses m clock count) ∧
      ∀ j < count, ∀ e, m.FirstToFail clock j e → RunFails m clock count j e := by
  refine ⟨fun h => ?_, fun j hj e h => runFails hm h hj⟩
  cases hrun : m.isRunning with
  | true => exact runPasses_of_running hrun h
  | false => exact runPasses_of_stopped hrun clock count

/-- The program `6001`, `7001`, `1FFE` takes three steps and fails at the fourth, in calls of three
and of nine steps. -/
theorem run_splits_at_last_word :
    let m : Machine Nat := (Config.machine {} (.ofSeed 0) 1 0).acts
      [.loadProgram [0x60, 0x01, 0x70, 0x01, 0x1F, 0xFE], .start]
    let clock : Nat → Nat := fun k => k
    Reachable {} m ∧ m.isRunning = true ∧ m.NoneFails clock 3 ∧
      (∃ os o, m.outcomes clock [.run 2, .step] = os ++ [o] ∧
        o.result = (m.run clock 3).result) ∧
      m.stop.afterEach .forceStep clock 3 = (m.run clock 3).after.stop ∧
      ∃ e, m.FirstToFail clock 3 e ∧ (m.run clock 9).answer = .error e ∧
        (m.run clock 9).after.phase = .halted ∧
        ∃ pre o post, m.outcomes clock [.step, .run 0, .run 5, .run 2, .step] = pre ++ o :: post ∧
          o.result = (m.run clock 9).result ∧
          ∀ p ∈ post, p = { answer := .ok none, after := o.after } := by
  intro m clock
  have hm : Reachable {} m := (Reachable.built _ _ _).acts _
  have hoks : ∀ k < 3, (m.stepAt clock k).answer.isOk = true := by decide +kernel
  have hpasses : m.NoneFails clock 3 := fun k hk => exists_eq_ok_of_isOk (hoks k hk)
  have hthird : (m.stepAt clock 3).answer.isOk = false := by decide +kernel
  obtain ⟨e, he⟩ : ∃ e, (m.stepAt clock 3).answer = .error e := by
    cases hs : (m.stepAt clock 3).answer with
    | error e => exact ⟨e, rfl⟩
    | ok r =>
        rw [hs] at hthird
        cases hthird
  have hfails : m.FirstToFail clock 3 e := ⟨hpasses, he⟩
  have hthree := (run_splits hm clock 3).1 hpasses
  have hnine := (run_splits hm clock 9).2 3 (by decide) e hfails
  have hrun : m.isRunning = true := by decide +kernel
  obtain ⟨os, o, hos, _, ho⟩ := hthree.calls [.run 2] .step (by decide) rfl
  obtain ⟨pre, o', post, hpre, _, ho', hpost⟩ :=
    hnine.calls [.step, .run 0, .run 5, .run 2, .step] rfl
  exact ⟨hm, hrun, hpasses, ⟨os, o, hos, ho⟩, (hthree.forced hrun .halted).2, e, hfails,
    hnine.answer, hnine.phase, pre, o', post, hpre, ho', hpost⟩

end Machine

end Chip8
