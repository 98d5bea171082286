import Chip8.Screen

set_option autoImplicit false

/-! # Drawing never fails

On a screen with positive sides every point falls on a pixel or on none, so that a drawing of at
most fifteen rows succeeds wherever it is put (`exists_draw`). The grid itself, that is the sides,
the kind of edges and the palette, stays as it is.
-/

namespace Chip8

theorem exists_indexFromEnd? {size : Nat} {index : Int} (h : 0 ≤ index ∧ index < size) :
    ∃ k, indexFromEnd? size index = .ok k := by
  unfold indexFromEnd?
  rw [dif_pos h]
  exact ⟨_, rfl⟩

namespace Screen

/-- Two screens with the same sides, edges and palette. -/
structure SameGrid (s t : Screen) : Prop where
  width : t.width = s.width
  height : t.height = s.height
  wrap : t.wrap = s.wrap
  palette : t.palette = s.palette

theorem SameGrid.refl (s : Screen) : SameGrid s s := ⟨rfl, rfl, rfl, rfl⟩

theorem SameGrid.trans {s t u : Screen} (h : SameGrid s t) (h' : SameGrid t u) : SameGrid s u :=
  ⟨h'.width.trans h.width, h'.height.trans h.height, h'.wrap.trans h.wrap,
    h'.palette.trans h.palette⟩

theorem sameGrid_clear (s : Screen) : SameGrid s s.clear := ⟨rfl, rfl, rfl, rfl⟩

/-- The place of a point of the grid, counted row by row. -/
theorem rowMajor_lt_size {s : Screen} {x y : Int} (hx : 0 ≤ x ∧ x < s.width)
    (hy : 0 ≤ y ∧ y < s.height) :
    0 ≤ y * s.width + x ∧ y * s.width + x < s.pixels.size := by
  have hrow : 0 ≤ y * s.width := Int.mul_nonneg hy.1 (by omega)
  have hall : 0 ≤ s.width * s.height := Int.mul_nonneg (by omega) (by omega)
  refine ⟨by omega, ?_⟩
  calc y * s.width + x
      < y * s.width + s.width := by omega
    _ = (y + 1) * s.width := by rw [Int.add_mul, Int.one_mul]
    _ ≤ s.height * s.width := Int.mul_le_mul_of_nonneg_right (by omega) (by omega)
    _ = s.width * s.height := Int.mul_comm _ _
    _ = s.pixels.size := by rw [s.size_eq, Int.toNat_of_nonneg hall]

section Positive

variable {s : Screen} (hw : 0 < s.width) (hh : 0 < s.height)

include hw hh in
theorem exists_place (x y : Int) : ∃ k, s.place x y = .ok k := by
  unfold place
  split
  · rw [if_neg (by omega)]
    have hx : 0 ≤ x.fmod s.width ∧ x.fmod s.width < s.width :=
      ⟨Int.fmod_nonneg_of_pos x hw, Int.fmod_lt_of_pos x hw⟩
    have hy : 0 ≤ y.fmod s.height ∧ y.fmod s.height < s.height :=
      ⟨Int.fmod_nonneg_of_pos y hh, Int.fmod_lt_of_pos y hh⟩
    obtain ⟨k, hk⟩ := exists_indexFromEnd? (rowMajor_lt_size hx hy)
    rw [hk]
    exact ⟨_, rfl⟩
  · split
    · rename_i h
      obtain ⟨k, hk⟩ := exists_indexFromEnd? (rowMajor_lt_size ⟨h.1, h.2.1⟩ h.2.2)
      rw [hk]
      exact ⟨_, rfl⟩
    · exact ⟨_, rfl⟩

include hw hh in
theorem exists_plot (collided : Bool) (dot : Dot) :
    ∃ d, Drawing.plot ⟨s, collided⟩ dot = .ok d ∧ SameGrid s d.screen := by
  obtain ⟨k, hk⟩ := exists_place hw hh dot.x dot.y
  cases k with
  | none => exact ⟨_, by simp only [Drawing.plot, hk]; rfl, SameGrid.refl s⟩
  | some k => exact ⟨_, by simp only [Drawing.plot, hk]; rfl, ⟨rfl, rfl, rfl, rfl⟩⟩

include hw hh in
theorem exists_plotAll (collided : Bool) (dots : List Dot) :
    ∃ d, Drawing.plotAll ⟨s, collided⟩ dots = .ok d ∧ SameGrid s d.screen := by
  induction dots generalizing s collided with
  | nil => exact ⟨_, rfl, SameGrid.refl s⟩
  | cons dot rest ih =>
      -- the sides are all that a plot needs, and the dot before has left them
      obtain ⟨next, hplot, hgrid⟩ := exists_plot hw hh collided dot
      obtain ⟨d, hrest, hgrid'⟩ :=
        @ih next.screen (by rw [hgrid.width]; exact hw) (by rw [hgrid.height]; exact hh)
          next.collided
      refine ⟨d, ?_, hgrid.trans hgrid'⟩
      rw [Drawing.plotAll, hplot]
      exact hrest

include hw hh in
/-- A sprite of at most fifteen rows can be drawn anywhere. -/
theorem exists_draw (x y : Int) {rows : List Int} (hr : rows.length ≤ maxSpriteRows) :
    ∃ d, s.draw x y rows = .ok d ∧ SameGrid s d.screen := by
  unfold draw
  rw [if_neg (by omega)]
  exact exists_plotAll hw hh false (dots x y rows)

end Positive

end Screen

end Chip8
