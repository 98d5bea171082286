import Chip8.Proofs.Machine.Sound

set_option autoImplicit false

/-! # A reset builds the machine anew

The kind of its screen, the depth of its stack and the period of its timers are settings of a
machine: nothing that happens to it changes them (`sameSettings_after`, `Processor.Sound`). Beside
the settings a reset leaves the phase and the source of random bytes, and so a machine that was
reset is one that was just built, in another phase and with another source (`reset_acts`).
-/

namespace Chip8

namespace Screen

/-- An unlit screen is given by its grid. -/
theorem SameGrid.clear_eq {s t : Screen} (h : SameGrid s t) : t.clear = s.clear := by
  obtain ⟨width, height, wrap, palette, pixels, size_eq⟩ := t
  obtain ⟨hwidth, hheight, hwrap, hpalette⟩ := h
  dsimp only at hwidth hheight hwrap hpalette
  subst hwidth hheight hwrap hpalette
  rfl

theorem clear_standard (wrap : Bool) (palette : Palette) :
    (standard wrap palette).clear = standard wrap palette := rfl

end Screen

namespace Processor

variable {τ : Type} {maxDepth : Nat} {p : Processor τ}

/-- The processor `q` has the settings of `p`, but for the depth of the stack. -/
structure SameSettings (p q : Processor τ) : Prop where
  grid : Screen.SameGrid p.state.screen q.state.screen
  period : q.period = p.period

theorem SameSettings.refl (p : Processor τ) : SameSettings p p := ⟨.refl _, rfl⟩

theorem SameSettings.trans {p q r : Processor τ} (h : SameSettings p q) (h' : SameSettings q r) :
    SameSettings p r :=
  ⟨h.grid.trans h'.grid, h'.period.trans h.period⟩

theorem sameSettings_resolve (p : Processor τ) : SameSettings p p.resolve.2 := by
  rcases p.resolve_cases with h | ⟨x, key, _, _, h⟩
  · rw [h]
    exact .refl p
  · rw [h]
    exact ⟨.refl _, rfl⟩

theorem sameSettings_of_proceeds {o : Outcome (Processor τ) Snapshot} (h : p.Sound maxDepth)
    (ho : Proceeds p o) : SameSettings p o.after := by
  have hexecute {w : Word} {t : State}
      (he : (Instruction.decode w).execute p.state.advance = .ok t) :
      Screen.SameGrid p.state.screen t.screen :=
    Instruction.sameGrid_execute h.state.width_pos h.state.height_pos he
  cases ho with
  | waits hx => exact p.sameSettings_resolve
  | unfetched hm hf => exact .refl p
  | refused hm hf he => exact .refl p
  | overrun hm hf he hpc =>
      have hgrid := hexecute he
      exact ⟨hgrid, rfl⟩
  | executes hm hf he hpc =>
      have hgrid := hexecute he
      exact ⟨hgrid, rfl⟩

theorem sameSettings_step [Sub τ] [LT τ] [DecidableLT τ] (h : p.Sound maxDepth) (now : τ) :
    SameSettings p (p.step now).after := by
  have htick : SameSettings p (p.tick now) := by
    refine ⟨?_, p.period_tick now⟩
    rw [screen_tick]
    exact .refl _
  exact htick.trans (sameSettings_of_proceeds (h.tick now) (proceeds _))

end Processor

/-- A reset state is the state of a machine just built. -/
theorem State.reset_eq {c : Config} {s : State} (h : s.Sound c.stackDepth)
    (hgrid : Screen.SameGrid (.standard c.spriteWrap c.palette) s.screen) :
    s.reset = c.initialState s.random := by
  have hstack : s.stack.clear = { depth := c.stackDepth } := by
    show ({ depth := s.stack.depth, given := s.stack.given } : CallStack) = _
    rw [h.depth, h.given]
  have hscreen : s.screen.clear = .standard c.spriteWrap c.palette := by
    rw [hgrid.clear_eq, Screen.clear_standard]
  unfold reset Config.initialState
  rw [hstack, hscreen]

namespace Machine

open Processor

variable {τ : Type} [Sub τ] [LT τ] [DecidableLT τ] {maxDepth : Nat} {m : Machine τ}

theorem sameSettings_happen (h : m.processor.Sound maxDepth) (e : Event τ) :
    SameSettings m.processor (m.happen e).processor := by
  cases e with
  | start => exact .refl _
  | stop => exact .refl _
  | reset now => exact ⟨Screen.sameGrid_clear _, rfl⟩
  | pulse now =>
      show SameSettings m.processor (m.forceStep now).after.processor
      rw [processor_forceStep]
      exact sameSettings_step h now
  | write data =>
      show SameSettings m.processor (m.loadProgram data).after.processor
      rcases m.loadProgram_cases data with hm | ⟨memory, hm⟩
      · rw [hm]
        exact .refl _
      · rw [hm]
        exact ⟨.refl _, rfl⟩
  | key key pressed =>
      have hset : SameSettings m.processor { m.processor with
          state := { m.state with keypad := m.state.keypad.set key pressed } } := ⟨.refl _, rfl⟩
      show SameSettings m.processor (m.processor.setKey key pressed m.isRunning)
      unfold Processor.setKey
      split
      · exact hset.trans (sameSettings_resolve _)
      · exact hset

theorem sameSettings_after (h : m.processor.Sound maxDepth) (es : List (Event τ)) :
    SameSettings m.processor (m.after es).processor := by
  induction es generalizing m with
  | nil => exact .refl _
  | cons e es ih => exact (sameSettings_happen h e).trans (ih (sound_happen h e))

/-- **A reset builds anew.** What a reset leaves of a machine's past is the phase and the source of
random bytes. -/
theorem reset_acts (c : Config) (random : Twister) (period t : τ) (as : List (Action τ)) (now : τ) :
    let m := (c.machine random period t).acts as
    m.reset now = { c.machine m.state.random period now with phase := m.phase } := by
  intro m
  have hm : Reachable c m := (Reachable.built random period t).acts as
  have hsettings : SameSettings (c.machine random period t).processor m.processor := by
    show SameSettings _ ((c.machine random period t).acts as).processor
    rw [acts_eq_after_trace]
    exact sameSettings_after (c.sound_machine random period t) _
  have hstate : m.processor.state.reset = c.initialState m.state.random :=
    State.reset_eq hm.sound.state hsettings.grid
  have hperiod : m.processor.period = period := hsettings.period
  show ({ processor := { state := _, period := _, lastTick := now }, phase := _ } : Machine τ) = _
  rw [hstate, hperiod]
  rfl

end Machine

end Chip8
