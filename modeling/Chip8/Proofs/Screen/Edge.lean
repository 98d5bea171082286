import Chip8.Proofs.Screen.Draw

set_option autoImplicit false

/-! # Sprites inside the screen

What a screen does at its edges concerns only the dots beyond them. A dot on the grid falls on the
same pixel whether or not the screen wraps (`place_withWrap`). A dot that is not lit leaves every
pixel as it is, wherever it falls (`plot_of_unlit`). So a sprite with all its lit dots on the grid
is drawn alike by both kinds of screen (`draw_withWrap`).
-/

namespace Chip8

namespace Screen

/-- The screen with edges of the given kind. -/
def withWrap (s : Screen) (wrap : Bool) : Screen := { s with wrap }

/-- Whether a dot lies on the grid of a machine's screen. -/
def Dot.isOnGrid (dot : Dot) : Bool :=
  0 ≤ dot.x && dot.x < screenWidth && 0 ≤ dot.y && dot.y < screenHeight

/-- Whether a sprite at `(x, y)` has a lit dot that does not lie on the grid. -/
def leavesGrid (x y : Int) (rows : List Int) : Bool :=
  (dots x y rows).any fun dot => dot.lit && !dot.isOnGrid

/-- The drawing on a screen with edges of the given kind. -/
def Drawing.withWrap (d : Drawing) (wrap : Bool) : Drawing :=
  { d with screen := d.screen.withWrap wrap }

theorem leavesGrid_eq_false_iff {x y : Int} {rows : List Int} :
    leavesGrid x y rows = false ↔
      ∀ dot ∈ dots x y rows, dot.lit = true → dot.isOnGrid = true := by
  simp [leavesGrid]

variable {s : Screen} (hw : s.width = screenWidth) (hh : s.height = screenHeight)

include hw hh in
theorem sides_pos : 0 < s.width ∧ 0 < s.height := by
  rw [hw, hh]
  decide

include hw hh in
/-- A dot on the grid falls on the same pixel whether or not the screen wraps, because it is its own
remainder by the sides. -/
theorem place_of_isOnGrid {dot : Dot} (hdot : dot.isOnGrid = true) :
    s.place dot.x dot.y =
      (indexFromEnd? s.pixels.size (dot.y * s.width + dot.x)).map some := by
  have hgrid : 0 ≤ dot.x ∧ dot.x < s.width ∧ 0 ≤ dot.y ∧ dot.y < s.height := by
    simp only [Dot.isOnGrid, Bool.and_eq_true, decide_eq_true_eq] at hdot
    omega
  unfold place
  by_cases hwrap : s.wrap = true
  · have hsides : ¬ (s.width = 0 ∨ s.height = 0) := by omega
    rw [if_pos hwrap, if_neg hsides, Int.fmod_eq_of_lt hgrid.1 hgrid.2.1,
      Int.fmod_eq_of_lt hgrid.2.2.1 hgrid.2.2.2]
  · rw [if_neg hwrap, if_pos hgrid]

include hw hh in
/-- A dot that is not lit inverts nothing and collides with nothing. -/
theorem plot_of_unlit {dot : Dot} (hdot : dot.lit = false) (collided : Bool) :
    Drawing.plot ⟨s, collided⟩ dot = .ok ⟨s, collided⟩ := by
  have hsides := sides_pos hw hh
  obtain ⟨k, hk⟩ := exists_place hsides.1 hsides.2 dot.x dot.y
  unfold Drawing.plot
  simp only [hk]
  cases k with
  | none => rfl
  | some k =>
      have hpixels : s.pixels.set k.val s.pixels[k] k.isLt = s.pixels :=
        Array.set_getElem_self k.isLt
      simp only [hdot, Bool.xor_false, hpixels, Bool.and_false, Bool.or_false]

include hw hh in
theorem plot_withWrap {dot : Dot} (hdot : dot.lit = true → dot.isOnGrid = true)
    (collided wrap : Bool) :
    Drawing.plot ⟨s.withWrap wrap, collided⟩ dot =
      (Drawing.plot ⟨s, collided⟩ dot).map (·.withWrap wrap) := by
  by_cases hlit : dot.lit = true
  · have hplace := place_of_isOnGrid hw hh (hdot hlit)
    have hplace' : (s.withWrap wrap).place dot.x dot.y =
        (indexFromEnd? s.pixels.size (dot.y * s.width + dot.x)).map some :=
      place_of_isOnGrid (s := s.withWrap wrap) hw hh (hdot hlit)
    unfold Drawing.plot
    simp only [hplace, hplace']
    cases indexFromEnd? s.pixels.size (dot.y * s.width + dot.x) with
    | error e => rfl
    | ok k => rfl
  · have hunlit : dot.lit = false := by simpa using hlit
    rw [plot_of_unlit hw hh hunlit, plot_of_unlit (s := s.withWrap wrap) hw hh hunlit]
    rfl

include hw hh in
theorem plotAll_withWrap {dots : List Dot}
    (hdots : ∀ dot ∈ dots, dot.lit = true → dot.isOnGrid = true) (collided wrap : Bool) :
    Drawing.plotAll ⟨s.withWrap wrap, collided⟩ dots =
      (Drawing.plotAll ⟨s, collided⟩ dots).map (·.withWrap wrap) := by
  induction dots generalizing s collided with
  | nil => rfl
  | cons dot rest ih =>
      have hsides := sides_pos hw hh
      have hrest : ∀ d ∈ rest, d.lit = true → d.isOnGrid = true :=
        fun d hd => hdots d (List.mem_cons_of_mem dot hd)
      -- the dot before has left the sides as they are
      obtain ⟨next, hplot, hgrid⟩ := exists_plot hsides.1 hsides.2 collided dot
      have hplot' : Drawing.plot ⟨s.withWrap wrap, collided⟩ dot = .ok (next.withWrap wrap) := by
        rw [plot_withWrap hw hh (hdots dot List.mem_cons_self), hplot]
        rfl
      simp only [Drawing.plotAll, hplot, hplot']
      exact ih (hgrid.width.trans hw) (hgrid.height.trans hh) hrest next.collided

include hw hh in
/-- A sprite that does not leave the grid is drawn alike whether or not the screen wraps. -/
theorem draw_withWrap {x y : Int} {rows : List Int} (h : leavesGrid x y rows = false)
    (wrap : Bool) :
    (s.withWrap wrap).draw x y rows = (s.draw x y rows).map (·.withWrap wrap) := by
  unfold draw
  by_cases htall : maxSpriteRows < rows.length
  · rw [if_pos htall, if_pos htall]
    rfl
  · rw [if_neg htall, if_neg htall]
    exact plotAll_withWrap hw hh (leavesGrid_eq_false_iff.1 h) false wrap

end Screen

end Chip8
