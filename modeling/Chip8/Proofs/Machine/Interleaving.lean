import Chip8.Proofs.Machine.Execution
import Chip8.Proofs.Processor.Keypad

set_option autoImplicit false

/-! # Keys and steps commute

A host sets keys while a machine takes steps, and nothing says in which order the two come. As long
as no wait for a key is going on and no step comes upon an instruction that looks at the keypad
(`looksAlong`), the order makes no difference: every interleaving (`Interleaves`) ends with the same
machine as setting all keys first, and the steps give the same answers on the way. This holds for
steps that fail, too, and for those which the halted machine then refuses.

A single key and a single step are exchanged in `act_swap`; the main statement (`keys_commute`)
moves every step behind all keys.
-/

namespace Chip8

/-- The list `xs` has the elements of `as` and of `bs`, those of each list in their order. -/
inductive Interleaves {α : Type} : List α → List α → List α → Prop where
  | nil : Interleaves [] [] []
  | left {as bs xs : List α} (a : α) : Interleaves as bs xs → Interleaves (a :: as) bs (a :: xs)
  | right {as bs xs : List α} (b : α) : Interleaves as bs xs → Interleaves as (b :: bs) (b :: xs)

/-- The keypad after a host has set the key that a value names, or has named none. -/
def Keypad.setNamed (k : Keypad) (given : Value) (pressed : Bool) : Keypad :=
  match Key.ofValue given with
  | .error _ => k
  | .ok key => k.set key pressed

theorem Keypad.isAwaiting_setNamed (k : Keypad) (given : Value) (pressed : Bool) :
    (k.setNamed given pressed).isAwaiting = k.isAwaiting := by
  unfold setNamed
  cases Key.ofValue given with
  | error e => rfl
  | ok key => exact k.isAwaiting_set key pressed

namespace Machine

open Processor

variable {τ : Type} [Sub τ] [LT τ] [DecidableLT τ]

/-- Whether an action is a step that comes upon an instruction which looks at the keypad. -/
def looks (m : Machine τ) : Action τ → Bool
  | .step _ => m.isRunning && m.next?.any Instruction.looksAtKeypad
  | _ => false

/-- Whether one of several actions, one after the other, looks at the keypad. -/
def looksAlong (m : Machine τ) : List (Action τ) → Bool
  | [] => false
  | a :: as => m.looks a || (m.act a).looksAlong as

/-- The answer of an action that is a step. -/
def stepAnswer? (m : Machine τ) : Action τ → Option (Except Fault (Option Snapshot))
  | .step now => some (m.step now).answer
  | _ => none

/-- The answers of the steps among actions. -/
def stepAnswers (m : Machine τ) : List (Action τ) → List (Except Fault (Option Snapshot))
  | [] => []
  | a :: as => (m.stepAnswer? a).toList ++ (m.act a).stepAnswers as

/-! ## One key and one step -/

section Swap

variable {m : Machine τ}

omit [Sub τ] [LT τ] [DecidableLT τ] in
theorem looksAway_of_looks {now : τ} (h : m.processor.Free) (hrun : m.isRunning = true)
    (hlook : m.looks (.step now) = false) : m.processor.LooksAway := by
  intro w hw
  have hnext : m.next? = some (Instruction.decode w) :=
    next?_eq_some_iff.2 ⟨h.mode, w, hw, rfl⟩
  change (m.isRunning && m.next?.any Instruction.looksAtKeypad) = false at hlook
  rw [hrun, hnext] at hlook
  exact hlook

/-- Setting a key while no wait is going on changes the keypad alone. -/
theorem act_setKey (h : m.processor.Free) (given : Value) (pressed : Bool) :
    m.act (.setKey given pressed) =
      m.mapProcessor (·.withKeypad (m.state.keypad.setNamed given pressed)) := by
  show (m.setKeyNamed given pressed).after = _
  unfold setKeyNamed Keypad.setNamed
  cases Key.ofValue given with
  | error e => rfl
  | ok key =>
      have hset := h.setKey_eq key pressed m.isRunning
      show ({ m with processor := m.processor.setKey key pressed m.isRunning } : Machine τ) = _
      rw [hset]
      rfl

theorem forceStep_withKeypad (h : m.processor.Free) (haway : m.processor.LooksAway)
    {keypad : Keypad} (hidle : keypad.isAwaiting = false) (now : τ) :
    (m.mapProcessor (·.withKeypad keypad)).forceStep now =
      (m.forceStep now).map (·.mapProcessor (·.withKeypad keypad)) id :=
  forceStep_mapProcessor m now (Processor.step_withKeypad h haway hidle now) fun _ => rfl

theorem free_act_setKey (h : m.processor.Free) (given : Value) (pressed : Bool) :
    (m.act (.setKey given pressed)).processor.Free := by
  rw [act_setKey h]
  exact h.withKeypad ((m.state.keypad.isAwaiting_setNamed given pressed).trans h.latch)

theorem looks_act_setKey (h : m.processor.Free) (given : Value) (pressed : Bool) (now : τ) :
    (m.act (.setKey given pressed)).looks (.step now) = m.looks (.step now) := by
  rw [act_setKey h]
  rfl

/-- A step that does not look at the keypad leaves it alone. -/
theorem free_act_step {now : τ} (h : m.processor.Free) (hlook : m.looks (.step now) = false) :
    (m.act (.step now)).processor.Free ∧ (m.act (.step now)).state.keypad = m.state.keypad := by
  show (m.step now).after.processor.Free ∧ (m.step now).after.state.keypad = m.state.keypad
  by_cases hrun : m.isRunning = true
  · have haway := looksAway_of_looks h hrun hlook
    rw [step_of_isRunning m now hrun]
    show (m.forceStep now).after.processor.Free ∧
      (m.forceStep now).after.processor.state.keypad = m.state.keypad
    rw [processor_forceStep]
    exact ⟨h.step haway now, (keypad_step h haway now).2⟩
  · rw [step, if_neg hrun]
    exact ⟨h, rfl⟩

/-- With another keypad such a step does the same, up to that keypad. -/
theorem step_withKeypad {now : τ} (h : m.processor.Free) (hlook : m.looks (.step now) = false)
    {keypad : Keypad} (hidle : keypad.isAwaiting = false) :
    ((m.mapProcessor (·.withKeypad keypad)).step now).after =
        (m.step now).after.mapProcessor (·.withKeypad keypad) ∧
      ((m.mapProcessor (·.withKeypad keypad)).step now).answer = (m.step now).answer := by
  by_cases hrun : m.isRunning = true
  · have hrun' : (m.mapProcessor (·.withKeypad keypad)).isRunning = true := hrun
    have haway := looksAway_of_looks h hrun hlook
    rw [step_of_isRunning _ now hrun', step_of_isRunning m now hrun,
      forceStep_withKeypad h haway hidle]
    refine ⟨rfl, ?_⟩
    obtain ⟨answer, after, log⟩ := m.forceStep now
    cases answer <;> rfl
  · have hrun' : ¬ (m.mapProcessor (·.withKeypad keypad)).isRunning = true := hrun
    rw [step, step, if_neg hrun, if_neg hrun']
    exact ⟨rfl, rfl⟩

/-- A key and a step that does not look at the keypad can be exchanged. -/
theorem act_swap {now : τ} (h : m.processor.Free) (hlook : m.looks (.step now) = false)
    (given : Value) (pressed : Bool) :
    (m.act (.setKey given pressed)).act (.step now) =
        (m.act (.step now)).act (.setKey given pressed) ∧
      ((m.act (.setKey given pressed)).step now).answer = (m.step now).answer := by
  obtain ⟨hfree, hkeypad⟩ := free_act_step h hlook
  have hidle : (m.state.keypad.setNamed given pressed).isAwaiting = false :=
    (m.state.keypad.isAwaiting_setNamed given pressed).trans h.latch
  rw [act_setKey h, act_setKey hfree, hkeypad]
  exact step_withKeypad h hlook hidle

end Swap

/-! ## Many keys and many steps -/

/-- The actions of a host that sets keys one after the other. -/
def keyActions (ks : List (Value × Bool)) : List (Action τ) :=
  ks.map fun k => .setKey k.1 k.2

section Keys

variable {m : Machine τ} (ks : List (Value × Bool))

omit [Sub τ] [LT τ] [DecidableLT τ] in
theorem keyActions_cons (given : Value) (pressed : Bool) :
    (keyActions ((given, pressed) :: ks) : List (Action τ)) =
      .setKey given pressed :: keyActions ks := rfl

theorem looks_keyActions (h : m.processor.Free) (now : τ) :
    (m.acts (keyActions ks)).looks (.step now) = m.looks (.step now) := by
  induction ks generalizing m with
  | nil => rfl
  | cons k ks ih =>
      rw [keyActions_cons, acts_cons, ih (free_act_setKey h k.1 k.2), looks_act_setKey h]

/-- A step that does not look at the keypad can be moved in front of all keys. -/
theorem swap_keyActions {now : τ} (h : m.processor.Free) (hlook : m.looks (.step now) = false) :
    (m.acts (keyActions ks)).act (.step now) = (m.act (.step now)).acts (keyActions ks) ∧
      ((m.acts (keyActions ks)).step now).answer = (m.step now).answer := by
  induction ks generalizing m with
  | nil => exact ⟨rfl, rfl⟩
  | cons k ks ih =>
      obtain ⟨hact, hanswer⟩ := act_swap h hlook k.1 k.2
      have hlook' : (m.act (.setKey k.1 k.2)).looks (.step now) = false := by
        rw [looks_act_setKey h, hlook]
      obtain ⟨hacts, hanswers⟩ := ih (free_act_setKey h k.1 k.2) hlook'
      rw [keyActions_cons, acts_cons, acts_cons]
      exact ⟨by rw [hacts, hact], by rw [hanswers, hanswer]⟩

theorem looksAlong_keyActions (m : Machine τ) (as : List (Action τ)) :
    m.looksAlong (keyActions ks ++ as) = (m.acts (keyActions ks)).looksAlong as := by
  induction ks generalizing m with
  | nil => rfl
  | cons k ks ih =>
      show (false || (m.act (.setKey k.1 k.2)).looksAlong (keyActions ks ++ as)) = _
      rw [Bool.false_or, ih]
      rfl

theorem stepAnswers_keyActions (m : Machine τ) (as : List (Action τ)) :
    m.stepAnswers (keyActions ks ++ as) = (m.acts (keyActions ks)).stepAnswers as := by
  induction ks generalizing m with
  | nil => rfl
  | cons k ks ih =>
      show [] ++ (m.act (.setKey k.1 k.2)).stepAnswers (keyActions ks ++ as) = _
      rw [List.nil_append, ih]
      rfl

end Keys

/-- The steps of an interleaving, moved behind all keys. -/
theorem steps_behind_keys {m : Machine τ} (h : m.processor.Free) {ks : List (Value × Bool)}
    {ts : List τ} {as bs xs : List (Action τ)} (hxs : Interleaves as bs xs)
    (has : as = keyActions ks) (hbs : bs = ts.map .step) :
    m.looksAlong xs = (m.acts as).looksAlong bs ∧
      (m.looksAlong xs = false →
        m.acts xs = (m.acts as).acts bs ∧ m.stepAnswers xs = (m.acts as).stepAnswers bs) := by
  -- a key in front is one of the keys already, and a step in front is moved behind them
  induction hxs generalizing m ks ts with
  | nil => exact ⟨rfl, fun _ => ⟨rfl, rfl⟩⟩
  | left a hxs ih =>
      cases ks with
      | nil => cases has
      | cons k ks =>
          cases has
          exact ih (free_act_setKey h k.1 k.2) rfl hbs
  | @right as bs xs b hxs ih =>
      cases ts with
      | nil => cases hbs
      | cons now ts =>
          cases hbs
          subst has
          have hlooks := looks_keyActions ks h now
          change (m.looks (.step now) || (m.act (.step now)).looksAlong xs) =
              ((m.acts (keyActions ks)).looks (.step now) ||
                ((m.acts (keyActions ks)).act (.step now)).looksAlong (ts.map .step)) ∧
            ((m.looks (.step now) || (m.act (.step now)).looksAlong xs) = false →
              (m.act (.step now)).acts xs =
                  ((m.acts (keyActions ks)).act (.step now)).acts (ts.map .step) ∧
                (m.step now).answer :: (m.act (.step now)).stepAnswers xs =
                  ((m.acts (keyActions ks)).step now).answer ::
                    ((m.acts (keyActions ks)).act (.step now)).stepAnswers (ts.map .step))
          rw [hlooks]
          cases hlook : m.looks (.step now) with
          | true => exact ⟨rfl, nofun⟩
          | false =>
              obtain ⟨hact, hanswer⟩ := swap_keyActions ks h hlook
              obtain ⟨hlooksAlong, hsame⟩ := ih (free_act_step h hlook).1 rfl rfl
              rw [hact, hanswer, Bool.false_or, Bool.false_or]
              refine ⟨hlooksAlong, ?_⟩
              intro hnone
              obtain ⟨hacts, hanswers⟩ := hsame hnone
              exact ⟨hacts, by rw [hanswers]⟩

/-- **Keys and steps commute.** Let a reachable machine not wait for a key. Whether one of its steps
looks at the keypad does not depend on how they are interleaved with keys that the host sets. If
none does, every interleaving leaves the same machine, and its steps give the same answers, as when
all keys are set first. -/
theorem keys_commute {c : Config} {m : Machine τ} (hm : Reachable c m)
    (hmode : m.processor.mode = .running) (ks : List (Value × Bool)) (ts : List τ)
    {xs : List (Action τ)} (hxs : Interleaves (keyActions ks) (ts.map .step) xs) :
    m.looksAlong xs = m.looksAlong (keyActions ks ++ ts.map .step) ∧
      (m.looksAlong xs = false →
        m.acts xs = m.acts (keyActions ks ++ ts.map .step) ∧
          m.stepAnswers xs = m.stepAnswers (keyActions ks ++ ts.map .step)) := by
  have hfree : m.processor.Free := ⟨hmode, hm.sound.latch.1 hmode⟩
  rw [looksAlong_keyActions, acts_append, stepAnswers_keyActions]
  exact steps_behind_keys hfree hxs rfl rfl

/-- Two keys are set around a step that jumps to the last word, the one that fails there, and one
that the halted machine refuses. -/
theorem keys_commute_with_failure :
    let m := (Config.machine {} (.ofSeed 0) 1 0 : Machine Nat).acts
      [.loadProgram [0x1F, 0xFE], .start]
    let ks : List (Value × Bool) := [(.int 3, true), (.int 16, true), (.int 3, false)]
    let xs : List (Action Nat) :=
      [.step 0, .setKey (.int 3) true, .step 1, .setKey (.int 16) true, .step 2,
        .setKey (.int 3) false]
    Reachable {} m ∧ m.processor.mode = .running ∧
      Interleaves (keyActions ks) ([0, 1, 2].map .step) xs ∧ m.looksAlong xs = false ∧
      m.acts xs = m.acts (keyActions ks ++ [0, 1, 2].map .step) ∧
      m.stepAnswers xs = m.stepAnswers (keyActions ks ++ [0, 1, 2].map .step) := by
  intro m ks xs
  have hm : Reachable {} m := (Reachable.built _ _ _).acts _
  have hmode : m.processor.mode = .running := rfl
  have hxs : Interleaves (keyActions ks) ([0, 1, 2].map .step) xs :=
    .right _ (.left _ (.right _ (.left _ (.right _ (.left _ .nil)))))
  have hlooks : m.looksAlong xs = false := by decide +kernel
  obtain ⟨hacts, hanswers⟩ := (keys_commute hm hmode ks [0, 1, 2] hxs).2 hlooks
  exact ⟨hm, hmode, hxs, hlooks, hacts, hanswers⟩

end Machine

end Chip8
