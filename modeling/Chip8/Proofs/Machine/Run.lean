import Chip8.Proofs.Machine.Event

set_option autoImplicit false

/-! # Runs

A run of `a + b` steps is a run of `a` steps and one of `b` steps that goes on from its outcome
(`runFrom_add`). So a run that takes one step more is the shorter run, and after it that step if the
machine still runs (`run_succ`). A property of runs is proved by adding steps at the end.
-/

namespace Chip8

namespace Machine

variable {τ : Type} [Sub τ] [LT τ] [DecidableLT τ]

/-- A run does not go on when the machine does not run. -/
theorem runFrom_of_not_running (clock : Nat → τ) (k : Nat)
    {o : Outcome (Machine τ) (Option Snapshot)} (h : o.after.isRunning = false) (count : Nat) :
    runFrom clock k o count = o := by
  obtain ⟨answer, n, log⟩ := o
  cases count with
  | zero => rfl
  | succ count =>
      cases answer with
      | error e => rfl
      | ok last =>
          change n.isRunning = false at h
          rw [runFrom, if_neg (Bool.eq_false_iff.1 h)]

theorem runFrom_add (clock : Nat → τ) (k : Nat) (o : Outcome (Machine τ) (Option Snapshot))
    (a b : Nat) :
    runFrom clock k o (a + b) = runFrom clock (k + a) (runFrom clock k o a) b := by
  induction a generalizing k o with
  | zero =>
      rw [Nat.zero_add]
      rfl
  | succ a ih =>
      obtain ⟨answer, n, log⟩ := o
      cases answer with
      | error e => rw [runFrom_error, runFrom_error, runFrom_error]
      | ok last =>
          cases hrun : n.isRunning with
          | false =>
              have hstop := fun count =>
                runFrom_of_not_running clock k (o := ⟨.ok last, n, log⟩) hrun count
              rw [hstop, hstop, runFrom_of_not_running _ _ hrun]
          | true =>
              have hsucc : ∀ count, runFrom clock k ⟨.ok last, n, log⟩ (count + 1) =
                  runFrom clock (k + 1)
                    { n.step (clock k) with log := log ++ (n.step (clock k)).log } count := by
                intro count
                rw [runFrom, if_pos hrun]
              calc runFrom clock k ⟨.ok last, n, log⟩ (a + 1 + b)
                  = runFrom clock k ⟨.ok last, n, log⟩ (a + b + 1) := by
                    rw [Nat.add_right_comm]
                _ = runFrom clock (k + 1 + a) (runFrom clock (k + 1)
                      { n.step (clock k) with log := log ++ (n.step (clock k)).log } a) b := by
                    rw [hsucc, ih]
                _ = runFrom clock (k + (a + 1))
                      (runFrom clock k ⟨.ok last, n, log⟩ (a + 1)) b := by
                    rw [hsucc, Nat.add_right_comm, Nat.add_assoc]

section Succ

variable {m : Machine τ} {clock : Nat → τ} {k : Nat}

theorem run_succ (m : Machine τ) (clock : Nat → τ) (k : Nat) :
    m.run clock (k + 1) = runFrom clock k (m.run clock k) 1 := by
  rw [run, runFrom_add, Nat.zero_add]
  rfl

theorem run_succ_of_error {e : Fault} (h : (m.run clock k).answer = .error e) :
    m.run clock (k + 1) = m.run clock k := by
  rw [run_succ]
  cases ho : m.run clock k with
  | mk answer n log =>
      rw [ho] at h
      cases h
      rfl

theorem run_succ_of_not_running (h : (m.run clock k).after.isRunning = false) :
    m.run clock (k + 1) = m.run clock k := by
  rw [run_succ, runFrom_of_not_running clock k h]

/-- A run whose machine still runs goes on with a step. -/
theorem run_succ_of_running {last : Option Snapshot} (h : (m.run clock k).answer = .ok last)
    (hrun : (m.run clock k).after.isRunning = true) :
    m.run clock (k + 1) =
      { (m.run clock k).after.step (clock k) with
        log := (m.run clock k).log ++ ((m.run clock k).after.step (clock k)).log } := by
  rw [run_succ]
  cases ho : m.run clock k with
  | mk answer n log =>
      rw [ho] at h hrun
      cases h
      change n.isRunning = true at hrun
      rw [runFrom, if_pos hrun]
      rfl

end Succ

end Machine

end Chip8
