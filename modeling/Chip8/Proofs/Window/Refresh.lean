import Chip8.Proofs.Config.Validity
import Chip8.Proofs.Machine.Reset
import Chip8.Window

set_option autoImplicit false

/-! # A refresh shows the machine

A refresh can fail in two places: a pixel has no colour if its level is no byte, and a register has
no label if the panel lacks it. Neither comes about in the window of a valid configuration
(`Shows`). There a refresh puts the picture of the screen into the screen panel, and beside the two
panels and the status bar it leaves the window as it was (`refresh_of_shows`).
-/

namespace Chip8

/-! ## The screen panel -/

theorem Config.Valid.isBytes {c : Config} (h : c.Valid) : c.palette.IsBytes :=
  ⟨by simpa [isByte] using h.background, by simpa [isByte] using h.foreground⟩

theorem Frame.exists_bitmap {f : Frame} (h : f.palette.IsBytes) : ∃ b, f.bitmap = .ok b := by
  rw [bitmap, rgb_eq h]
  exact ⟨_, rfl⟩

/-- A frame whose levels are bytes is shown. -/
theorem ScreenPanel.update_ok (p : ScreenPanel) {f : Frame} (h : f.palette.IsBytes) :
    ∃ q : ScreenPanel, q.frame = some f ∧ p.update f = (.ok (), q) := by
  obtain ⟨b, hb⟩ := f.exists_bitmap h
  refine ⟨{ p with frame := some f, bitmap := some b, requests := p.requests + 1 }, rfl, ?_⟩
  rw [update, hb]

/-! ## The register panel -/

namespace RegisterPanel

/-- The names of the labels that a panel has. -/
def labels (p : RegisterPanel) : List String := p.values.map (·.1)

theorem labels_initial : initial.labels = names := by
  simp [initial, labels, Function.comp_def]

/-- The panel has a label for each of the sixteen 8-bit registers. -/
theorem registerName_mem_names {n : Nat} (hn : n < 16) : Dump.registerName n ∈ names := by
  have hmem : Dump.registerName n ∈ (List.range 16).map Dump.registerName :=
    List.mem_map_of_mem (List.mem_range.2 hn)
  simp only [names, groups, List.flatMap_cons, List.mem_append]
  exact .inr (.inl hmem)

@[simp] theorem labels_set (p : RegisterPanel) (name value : String) :
    (p.set name value).labels = p.labels := by
  simp only [labels, set, List.map_map]
  refine List.map_congr_left fun e _ => ?_
  show (if e.1 == name then (name, value) else e).1 = e.1
  by_cases he : (e.1 == name) = true
  · rw [if_pos he, eq_of_beq he]
  · rw [if_neg he]

/-- Setting values leaves the labels. -/
theorem labels_foldl_set (p : RegisterPanel) (texts : List (String × String)) :
    (texts.foldl (fun p e => p.set e.1 e.2) p).labels = p.labels := by
  induction texts generalizing p with
  | nil => rfl
  | cons e rest ih => exact (ih (p.set e.1 e.2)).trans (labels_set p e.1 e.2)

theorem setRegisters_ok (p : RegisterPanel) (n : Nat) (values : List Int)
    (h : ∀ k < values.length, Dump.registerName (n + k) ∈ p.labels) :
    ∃ q : RegisterPanel, q.labels = p.labels ∧ p.setRegisters n values = (.ok (), q) := by
  induction values generalizing p n with
  | nil => exact ⟨p, rfl, rfl⟩
  | cons value rest ih =>
      have hfirst : p.values.any (·.1 == Dump.registerName n) = true := by
        obtain ⟨e, he, hname⟩ := List.mem_map.1 (h 0 (Nat.zero_lt_succ _))
        exact List.any_eq_true.2 ⟨e, he, beq_iff_eq.2 hname⟩
      rw [setRegisters, if_pos hfirst]
      -- a value that is set leaves the labels for the registers behind it
      obtain ⟨q, hq, hset⟩ := ih (p.set (Dump.registerName n) (Dump.registerText value)) (n + 1)
        fun k hk => by
          have hlater := h (k + 1) (Nat.succ_lt_succ hk)
          rwa [Nat.add_comm k 1, ← Nat.add_assoc, ← labels_set] at hlater
      exact ⟨q, hq.trans (labels_set p _ _), hset⟩

/-- A panel with all labels shows a dump of sixteen registers. -/
theorem update_ok {p : RegisterPanel} (hp : p.labels = names) {d : Dump} (hd : d.v.length = 16) :
    ∃ q : RegisterPanel, q.labels = names ∧ p.update d = (.ok (), q) := by
  obtain ⟨q, hq, hset⟩ := setRegisters_ok { p with dump := some d } 0 d.v fun k hk => by
    rw [Nat.zero_add, show ({ p with dump := some d } : RegisterPanel).labels = names from hp]
    exact registerName_mem_names (hd ▸ hk)
  refine ⟨(otherTexts d).foldl (fun p e => p.set e.1 e.2) q, ?_, ?_⟩
  · rw [labels_foldl_set, hq]
    exact hp
  · rw [update, hset]

end RegisterPanel

/-! ## The window -/

/-- The kind of the screen stays as it is configured. -/
theorem Machine.Reachable.grid {τ : Type} [Sub τ] [LT τ] [DecidableLT τ] {c : Config}
    {m : Machine τ} (h : Reachable c m) :
    Screen.SameGrid (.standard c.spriteWrap c.palette) m.state.screen := by
  induction h with
  | built random period now => exact .refl _
  | @act m a hm ih =>
      rw [act_eq_after_events]
      exact ih.trans (sameSettings_after hm.sound _).grid

namespace Window

variable {τ : Type} {c : Config} {w : Window τ}

/-- The window `w` has what it takes to show its machine: colours for the pixels, and a label for
every register. -/
structure Shows (w : Window τ) : Prop where
  palette : w.machine.state.screen.palette.IsBytes
  labels : w.registers.labels = RegisterPanel.names

theorem refresh_of_shows (h : w.Shows) : ∃ (screen : ScreenPanel) (registers : RegisterPanel),
    screen.frame = some w.machine.frame ∧ registers.labels = RegisterPanel.names ∧
      w.refresh =
        (.ok (), { w with screen, registers, status := statusText w.machine }) := by
  have hsixteen : w.machine.dump.v.length = 16 := by simp [Machine.dump]
  obtain ⟨screen, hframe, hscreen⟩ := w.screen.update_ok (f := w.machine.frame) h.palette
  obtain ⟨registers, hlabels, hregisters⟩ := RegisterPanel.update_ok h.labels hsixteen
  refine ⟨screen, registers, hframe, hlabels, ?_⟩
  rw [refresh, hscreen]
  dsimp only
  rw [hregisters]

end Window

end Chip8
