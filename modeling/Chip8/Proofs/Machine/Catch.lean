import Chip8.Proofs.Machine.Resolution

set_option autoImplicit false

/-! # The key that a wait catches

What the host does to the keys is a list of *settings*, each of one key (`Key.setting?`). They leave
every key as it was set last (`isDown_setAll`), and a keypad that waits catches the first key that
goes down (`pending?_setAll`).

As long as a machine waits for a key, its keypad is what the settings make of it, and nothing else
that happens to the machine matters (`keypad_of_throughout`).
-/

namespace Chip8

/-- The setting of the key that a value names, if it names one. -/
def Key.setting? (given : Value) (pressed : Bool) : Option (Key × Bool) :=
  match Key.ofValue given with
  | .error _ => none
  | .ok key => some (key, pressed)

/-- How a key was set last. -/
def Key.lastSetting? (key : Key) (ks : List (Key × Bool)) : Option Bool :=
  ((ks.filter fun s => s.1 = key).map Prod.snd).getLast?

namespace Keypad

/-- The keypad after settings, one after the other. -/
def setAll (k : Keypad) (ks : List (Key × Bool)) : Keypad := ks.foldl (fun k s => k.set s.1 s.2) k

/-- The first key that goes down in the course of settings. -/
def firstDown? (k : Keypad) : List (Key × Bool) → Option Key
  | [] => none
  | s :: ks => if k.goesDown s.1 s.2 then some s.1 else (k.set s.1 s.2).firstDown? ks

theorem setAll_cons (k : Keypad) (s : Key × Bool) (ks : List (Key × Bool)) :
    k.setAll (s :: ks) = (k.set s.1 s.2).setAll ks := rfl

theorem setAll_append (k : Keypad) (ks ls : List (Key × Bool)) :
    k.setAll (ks ++ ls) = (k.setAll ks).setAll ls := List.foldl_append

/-- Every key is as it was set last. -/
theorem isDown_setAll (k : Keypad) (ks : List (Key × Bool)) (key : Key) :
    (k.setAll ks).isDown key = (key.lastSetting? ks).getD (k.isDown key) := by
  induction ks using List.reverseRecOn with
  | nil => rfl
  | append_singleton ks s ih =>
      have hset : (k.setAll (ks ++ [s])).isDown key =
          if s.1 = key then s.2 else (k.setAll ks).isDown key := by
        rw [setAll_append]
        exact isDown_set _ _ _ _
      have hlast : key.lastSetting? (ks ++ [s]) =
          if s.1 = key then some s.2 else key.lastSetting? ks := by
        unfold Key.lastSetting?
        rw [List.filter_append, List.map_append]
        by_cases hs : s.1 = key <;> simp [hs]
      rw [hset, hlast, ih]
      split <;> rfl

/-- A setting lets a keypad that waits catch a key, unless it has caught one already. -/
theorem pending?_set {k : Keypad} (h : k.isAwaiting = true) (key : Key) (pressed : Bool) :
    (k.set key pressed).pending? =
      k.pending?.or (if k.goesDown key pressed then some key else none) := by
  unfold pending? set
  by_cases hdown : k.goesDown key pressed = true
  · rw [if_pos hdown, if_pos hdown]
    cases hl : k.latch with
    | idle =>
        unfold isAwaiting at h
        rw [hl] at h
        cases h
    | waiting => rfl
    | caught other => rfl
  · rw [if_neg hdown, if_neg hdown, Option.or_none]

/-- A keypad that waits catches the first key that goes down. -/
theorem pending?_setAll {k : Keypad} (h : k.isAwaiting = true) (ks : List (Key × Bool)) :
    (k.setAll ks).pending? = k.pending?.or (k.firstDown? ks) := by
  induction ks generalizing k with
  | nil => exact Option.or_none.symm
  | cons s ks ih =>
      rw [setAll_cons, ih ((k.isAwaiting_set s.1 s.2).trans h), pending?_set h, Option.or_assoc,
        firstDown?]
      split <;> rfl

theorem isAwaiting_setAll (k : Keypad) (ks : List (Key × Bool)) :
    (k.setAll ks).isAwaiting = k.isAwaiting := by
  induction ks generalizing k with
  | nil => rfl
  | cons s ks ih => rw [setAll_cons, ih, isAwaiting_set]

/-- A keypad that waits with no key caught has seen none go down. -/
theorem latch_eq_waiting {k : Keypad} (h : k.isAwaiting = true) (hnone : k.pending? = none) :
    k.latch = .waiting := by
  unfold isAwaiting at h
  unfold pending? at hnone
  cases hl : k.latch with
  | idle =>
      rw [hl] at h
      cases h
  | waiting => rfl
  | caught key =>
      rw [hl] at hnone
      cases hnone

theorem pending?_eq_some_iff {k : Keypad} {key : Key} :
    k.pending? = some key ↔ k.latch = .caught key := by
  unfold pending?
  cases k.latch <;> simp

end Keypad

namespace Machine

variable {τ : Type}

/-- The setting that an event is. -/
def Event.setting? : Event τ → Option (Key × Bool)
  | .key k pressed => some (k, pressed)
  | _ => none

/-- The setting that an action is, if it names a key. -/
def Action.setting? : Action τ → Option (Key × Bool)
  | .setKey given pressed => Key.setting? given pressed
  | _ => none

theorem throughout_cons {P : Machine τ → Prop} [Sub τ] [LT τ] [DecidableLT τ] {m : Machine τ}
    {e : Event τ} {es : List (Event τ)} (h : m.Throughout P (e :: es)) :
    P m ∧ (m.happen e).Throughout P es := by
  refine ⟨h [] List.nil_prefix, ?_⟩
  intro pre hpre
  exact h (e :: pre) (List.prefix_cons_inj e |>.2 hpre)

variable [Sub τ] [LT τ] [DecidableLT τ]

/-- An event after which a machine waits as before it has left the keypad alone, unless it is a
setting. -/
theorem keypad_happen {m : Machine τ} {e : Event τ} {x y : Reg}
    (hx : m.processor.mode = .awaitingKey x) (hy : (m.happen e).processor.mode = .awaitingKey y) :
    (m.happen e).state.keypad = m.state.keypad.setAll e.setting?.toList := by
  -- a wait that has been resolved is over
  have hresolve (p : Processor τ) (hp : p.resolve.2.mode = .awaitingKey y) :
      p.resolve.2.state.keypad = p.state.keypad := by
    rcases p.resolve_cases with h | ⟨_, _, _, _, h⟩
    · rw [h]
    · rw [h] at hp
      cases hp
  cases e with
  | start => rfl
  | stop => rfl
  | reset now => cases hy
  | write data =>
      show (m.loadProgram data).after.state.keypad = _
      rcases m.loadProgram_cases data with h | ⟨memory, h⟩ <;> rw [h] <;> rfl
  | pulse now =>
      have hmode : (m.processor.tick now).mode = .awaitingKey x :=
        (m.processor.mode_tick now).trans hx
      have hafter : (m.happen (.pulse now)).processor = (m.processor.tick now).resolve.2 := by
        show (m.forceStep now).after.processor = _
        rw [processor_forceStep, Processor.step, Processor.proceed_of_awaiting hmode]
      rw [hafter] at hy
      show (m.happen (.pulse now)).processor.state.keypad = m.state.keypad
      rw [hafter, hresolve _ hy, Processor.keypad_tick]
      rfl
  | key k pressed =>
      change (m.processor.setKey k pressed m.isRunning).mode = _ at hy
      show (m.processor.setKey k pressed m.isRunning).state.keypad = m.state.keypad.set k pressed
      cases hrun : m.isRunning with
      | false => rfl
      | true =>
          rw [hrun] at hy
          exact hresolve (m.processor.setKey k pressed false) hy

/-- As long as a machine waits, settings alone change its keypad. -/
theorem keypad_of_throughout {m : Machine τ} {x : Reg} {es : List (Event τ)}
    (h : m.Throughout (fun n => n.processor.mode = .awaitingKey x) es) :
    (m.after es).state.keypad = m.state.keypad.setAll (es.filterMap Event.setting?) := by
  induction es generalizing m with
  | nil => rfl
  | cons e es ih =>
      obtain ⟨hm, hrest⟩ := throughout_cons h
      have hnext : (m.happen e).processor.mode = .awaitingKey x := hrest [] List.nil_prefix
      rw [after_cons, ih hrest, keypad_happen hm hnext, ← Keypad.setAll_append]
      cases hs : e.setting? <;> simp [hs]

/-- In the course of events, a step began a wait for a key for `Vx` at the address `a`. The machine
has waited there since, and its keypad has caught the first key that went down since, if one did. -/
def Catches (m : Machine τ) (es : List (Event τ)) (x : Reg) (a : Int) : Prop :=
  ∃ pre now post, es = pre ++ .pulse now :: post ∧
    (m.after pre).Begins x ∧ (m.after pre).state.pc = a ∧
    let armed := m.after (pre ++ [.pulse now])
    armed.state.keypad.latch = .waiting ∧
    armed.Throughout (fun n => n.processor.mode = .awaitingKey x ∧ n.state.pc = a) post ∧
    (m.after es).state.keypad.isAwaiting = true ∧
    (m.after es).state.keypad.pending? =
      armed.state.keypad.firstDown? (post.filterMap Event.setting?)

/-- The keypad of a machine that waits has caught the first key that went down. -/
theorem Began.catches {m : Machine τ} {es : List (Event τ)} {x : Reg} {a : Int}
    (h : m.Began es x a) : m.Catches es x a := by
  obtain ⟨pre, now, post, rfl, hbegins, hpc, hpost⟩ := h
  let armed := m.after (pre ++ [.pulse now])
  have hlatch : armed.state.keypad.latch = .waiting := by
    show (m.after (pre ++ [.pulse now])).state.keypad.latch = .waiting
    rw [after_concat]
    exact (waits_of_begins hbegins now).2.1
  have hawaits : armed.state.keypad.isAwaiting = true := by
    rw [Keypad.isAwaiting, hlatch]
    rfl
  have hnone : armed.state.keypad.pending? = none := by
    rw [Keypad.pending?, hlatch]
  have hkeypad : (m.after (pre ++ .pulse now :: post)).state.keypad =
      armed.state.keypad.setAll (post.filterMap Event.setting?) := by
    rw [List.append_cons, after_append]
    exact keypad_of_throughout fun pre' hpre' => (hpost pre' hpre').1
  refine ⟨pre, now, post, rfl, hbegins, hpc, hlatch, hpost, ?_, ?_⟩
  · rw [hkeypad, Keypad.isAwaiting_setAll, hawaits]
  · rw [hkeypad, Keypad.pending?_setAll hawaits, hnone, Option.none_or]

end Machine

end Chip8
