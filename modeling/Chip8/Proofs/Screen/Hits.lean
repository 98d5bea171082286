import Chip8.Proofs.Screen.Draw
import Mathlib.Algebra.Group.Nat.Even
import Mathlib.Data.Finset.Prod
import Mathlib.Data.Finset.Range
import Mathlib.Data.Int.Bitwise
import Mathlib.Data.Int.ModEq

set_option autoImplicit false

/-! # A drawing inverts what it hits

A sprite hits a pixel once for every set bit that falls there (`hits`); on a screen that wraps and
is narrower than the sprite, several bits can fall on one pixel. A drawing goes from bit to bit, and
inverts pixels on its way. What it leaves is told by how often it hits every pixel: one that is hit
an odd number of times has changed, and the drawing has collided if a lit pixel was hit at all, or
an unlit one at least twice, since the second hit puts out what the first has lit (`Collides`).

`Inverted` says so of any series of inversions. It holds of a single dot (`inverted_plot`), and of
two series one after the other if it holds of both (`Inverted.add`). So it holds of the dots of a
sprite (`inverted_draw`), and it will hold of several sprites, too.
-/

namespace Chip8

namespace Screen

/-! ## Hits -/

/-- A position on the grid of a screen. -/
def OnGrid (s : Screen) (u v : Int) : Prop := (0 ≤ u ∧ u < s.width) ∧ 0 ≤ v ∧ v < s.height

/-- Whether the pixel at a position on the grid is lit. -/
def isLit (s : Screen) (u v : Int) : Bool := s.pixels.getD (v * s.width + u).toNat false

/-- A point falls on a position if it is there, or on a screen that wraps, if its remainders by the
sides are there. -/
def Falls (s : Screen) (x y u v : Int) : Prop :=
  if s.wrap then x.fmod s.width = u ∧ y.fmod s.height = v else x = u ∧ y = v

instance (s : Screen) (x y u v : Int) : Decidable (s.Falls x y u v) :=
  inferInstanceAs (Decidable (if s.wrap then _ else _))

/-- Bit `7 - b` of the row `r` of a sprite at `(x, y)` is set, and its point falls on `(u, v)`. -/
def Hits (s : Screen) (x y : Int) (rows : List Int) (u v : Int) (r b : Nat) : Prop :=
  (rows.getD r 0).testBit (7 - b) = true ∧ s.Falls (x + b) (y + r) u v

instance (s : Screen) (x y : Int) (rows : List Int) (u v : Int) (r b : Nat) :
    Decidable (s.Hits x y rows u v r b) :=
  inferInstanceAs (Decidable (_ ∧ _))

/-- How many bits of a sprite at `(x, y)` hit the pixel at `(u, v)`. -/
def hits (s : Screen) (x y : Int) (rows : List Int) (u v : Int) : Nat :=
  ((Finset.range rows.length ×ˢ Finset.range 8).filter fun p => s.Hits x y rows u v p.1 p.2).card

/-- The bits of a row, also of a negative one, are those of its two's complement. -/
theorem bit_eq_testBit (row : Int) (b : Nat) : bit row b = row.testBit (7 - b) := by
  have hiff : bit row b = true ↔ row.testBit (7 - b) = true := by
    rw [bit, beq_iff_eq]
    -- a negative row is shifted as its complement is, whose bits are the opposite ones
    cases row with
    | ofNat n =>
        show ((n >>> (7 - b) : Nat) : Int) % 2 = 1 ↔ n.testBit (7 - b) = true
        rw [Nat.testBit_eq_decide_div_mod_eq, Nat.shiftRight_eq_div_pow, decide_eq_true_iff]
        omega
    | negSucc n =>
        show Int.negSucc (n >>> (7 - b)) % 2 = 1 ↔ (!n.testBit (7 - b)) = true
        rw [Nat.testBit_eq_decide_div_mod_eq, Nat.shiftRight_eq_div_pow, Int.negSucc_eq,
          Bool.not_eq_true', decide_eq_false_iff_not]
        omega
  exact Bool.eq_iff_iff.2 hiff

theorem zipIdx_eq_map_range (rows : List Int) :
    rows.zipIdx = (List.range rows.length).map fun r => (rows.getD r 0, r) := by
  refine List.ext_getElem (by simp) fun r h _ => ?_
  have hr : r < rows.length := by simpa using h
  simp [hr]

/-- The dots of a sprite are given by the pairs of a row and a bit. -/
theorem dots_eq_map (x y : Int) (rows : List Int) :
    dots x y rows = (List.range rows.length ×ˢ List.range 8).map fun p =>
      ⟨x + p.2, y + p.1, bit (rows.getD p.1 0) p.2⟩ := by
  have hproduct : List.range rows.length ×ˢ List.range 8 =
      (List.range rows.length).flatMap fun r => (List.range 8).map (Prod.mk r) := rfl
  rw [dots, zipIdx_eq_map_range, List.flatMap_map, hproduct, List.map_flatMap]
  simp only [List.map_map, Function.comp_def]

/-- A dot hits the pixel at a position. -/
def IsHit (s : Screen) (dot : Dot) (u v : Int) : Prop :=
  dot.lit = true ∧ s.Falls dot.x dot.y u v

instance (s : Screen) (dot : Dot) (u v : Int) : Decidable (s.IsHit dot u v) :=
  inferInstanceAs (Decidable (_ ∧ _))

/-- Every pair of a row and a bit is a dot of its own. -/
theorem hits_eq_countP (s : Screen) (x y : Int) (rows : List Int) (u v : Int) :
    s.hits x y rows u v = (dots x y rows).countP fun dot => s.IsHit dot u v := by
  have hpairs : (Finset.range rows.length ×ˢ Finset.range 8).val =
      Multiset.ofList (List.range rows.length ×ˢ List.range 8) :=
    Multiset.coe_product (List.range rows.length) (List.range 8)
  rw [dots_eq_map, List.countP_map, hits, Finset.card, Finset.filter_val, hpairs,
    ← Multiset.countP_eq_card_filter, Multiset.coe_countP]
  refine List.countP_congr fun p _ => ?_
  rw [Function.comp_apply, decide_eq_true_iff, decide_eq_true_iff, IsHit, Hits, bit_eq_testBit]

/-! ## Pixels by position -/

section Position

variable {s : Screen} {u v : Int}

/-- Different positions on the grid have different places in a row-by-row order. -/
theorem rowMajor_inj {u' v' : Int} (h : s.OnGrid u v) (h' : s.OnGrid u' v')
    (heq : v * s.width + u = v' * s.width + u') : u = u' ∧ v = v' := by
  have hrem : ∀ {a b : Int}, s.OnGrid a b → (b * s.width + a) % s.width = a := by
    intro a b hab
    rw [Int.add_comm, Int.add_mul_emod_self_right, Int.emod_eq_of_lt hab.1.1 hab.1.2]
  have hu : u = u' := by
    calc u = (v * s.width + u) % s.width := (hrem h).symm
      _ = (v' * s.width + u') % s.width := by rw [heq]
      _ = u' := hrem h'
  have hw : s.width ≠ 0 := by have := h.1; omega
  have hrows : v * s.width = v' * s.width := by omega
  exact ⟨hu, Int.eq_of_mul_eq_mul_right hw hrows⟩

theorem pixel_of_onGrid (h : s.OnGrid u v) : s.pixel u v = .ok (s.isLit u v) := by
  have hplace := rowMajor_lt_size h.1 h.2
  have hlt : (v * s.width + u).toNat < s.pixels.size := by omega
  unfold pixel indexFromEnd? isLit
  rw [dif_pos hplace, Array.getD_eq_getD_getElem?, Array.getElem?_eq_getElem hlt]
  rfl

theorem exists_index (h : s.OnGrid u v) :
    ∃ k, indexFromEnd? s.pixels.size (v * s.width + u) = .ok k ∧
      k.val = (v * s.width + u).toNat := by
  unfold indexFromEnd?
  rw [dif_pos (rowMajor_lt_size h.1 h.2)]
  exact ⟨_, rfl, rfl⟩

/-- A point has a place on the grid just if it falls on some position, which is the only one. -/
theorem place_cases (hw : 0 < s.width) (hh : 0 < s.height) (x y : Int) :
    (∃ u v k, s.OnGrid u v ∧ s.place x y = .ok (some k) ∧ k.val = (v * s.width + u).toNat ∧
      ∀ u' v', s.Falls x y u' v' ↔ u = u' ∧ v = v') ∨
    (s.place x y = .ok none ∧ ∀ u v, s.OnGrid u v → ¬ s.Falls x y u v) := by
  unfold place Falls
  -- a screen that wraps brings every point onto its grid, and the other kind drops some
  by_cases hwrap : s.wrap = true
  · left
    have hsides : ¬ (s.width = 0 ∨ s.height = 0) := by omega
    have hgrid : s.OnGrid (x.fmod s.width) (y.fmod s.height) :=
      ⟨⟨Int.fmod_nonneg_of_pos x hw, Int.fmod_lt_of_pos x hw⟩,
        Int.fmod_nonneg_of_pos y hh, Int.fmod_lt_of_pos y hh⟩
    obtain ⟨k, hk, hval⟩ := exists_index hgrid
    simp only [if_pos hwrap, if_neg hsides, hk]
    exact ⟨_, _, k, hgrid, rfl, hval, fun u' v' => Iff.rfl⟩
  · simp only [if_neg hwrap]
    by_cases hin : 0 ≤ x ∧ x < s.width ∧ 0 ≤ y ∧ y < s.height
    · left
      have hgrid : s.OnGrid x y := ⟨⟨hin.1, hin.2.1⟩, hin.2.2⟩
      obtain ⟨k, hk, hval⟩ := exists_index hgrid
      simp only [if_pos hin, hk]
      exact ⟨_, _, k, hgrid, rfl, hval, fun u' v' => Iff.rfl⟩
    · right
      rw [if_neg hin]
      refine ⟨rfl, ?_⟩
      rintro u v hgrid ⟨rfl, rfl⟩
      exact hin ⟨hgrid.1.1, hgrid.1.2, hgrid.2⟩

end Position

/-! ## Inversions -/

theorem decide_odd_add (m n : Nat) :
    decide (Odd (m + n)) = (decide (Odd m) ^^ decide (Odd n)) := by
  by_cases hm : Odd m <;> by_cases hn : Odd n <;> simp [Nat.odd_add, ← Nat.not_odd_iff_even, hm, hn]

theorem decide_odd_ite (p : Prop) [Decidable p] :
    decide (Odd (if p then 1 else 0)) = decide p := by
  by_cases hp : p <;> simp [hp]

/-- A pixel that is inverted `n` times is put out by one of them. -/
def Collides (lit : Bool) (n : Nat) : Prop := lit = true ∧ 1 ≤ n ∨ lit = false ∧ 2 ≤ n

theorem collides_ite (lit : Bool) (p : Prop) [Decidable p] :
    Collides lit (if p then 1 else 0) ↔ lit = true ∧ p := by
  by_cases hp : p <;> simp [Collides, hp]

/-- A pixel that is inverted `m + n` times is put out by the first `m` or by the others. -/
theorem collides_add (lit : Bool) (m n : Nat) :
    Collides lit (m + n) ↔ Collides lit m ∨ Collides (lit ^^ decide (Odd m)) n := by
  unfold Collides
  by_cases hodd : Odd m
  · have hm : m % 2 = 1 := Nat.odd_iff.1 hodd
    cases lit <;> simp [hodd] <;> omega
  · have hm : m % 2 = 0 := Nat.even_iff.1 (Nat.not_odd_iff_even.1 hodd)
    cases lit <;> simp [hodd] <;> omega

/-- The screen `t` is what is left of `s` when the pixel at `(u, v)` has been inverted `n u v`
times, and `collided` says whether one of them was put out. -/
structure Inverted (s : Screen) (n : Int → Int → Nat) (t : Screen) (collided : Bool) : Prop where
  grid : SameGrid s t
  isLit : ∀ u v, s.OnGrid u v → t.isLit u v = (s.isLit u v ^^ decide (Odd (n u v)))
  collided : collided = true ↔ ∃ u v, s.OnGrid u v ∧ Collides (s.isLit u v) (n u v)

theorem SameGrid.onGrid_iff {s t : Screen} (h : SameGrid s t) {u v : Int} :
    t.OnGrid u v ↔ s.OnGrid u v := by
  rw [OnGrid, OnGrid, h.width, h.height]

theorem SameGrid.falls_iff {s t : Screen} (h : SameGrid s t) {x y u v : Int} :
    t.Falls x y u v ↔ s.Falls x y u v := by
  rw [Falls, Falls, h.width, h.height, h.wrap]

theorem SameGrid.isHit_iff {s t : Screen} (h : SameGrid s t) {dot : Dot} {u v : Int} :
    t.IsHit dot u v ↔ s.IsHit dot u v :=
  and_congr_right fun _ => h.falls_iff

section Inverted

variable {s t r : Screen} {m n : Int → Int → Nat} {c d : Bool}

/-- Nothing is inverted by nothing. -/
theorem inverted_zero (s : Screen) : Inverted s (fun _ _ => 0) s false where
  grid := .refl s
  isLit := by simp
  collided := by simp [Collides]

/-- Inversions one after the other add up. -/
theorem Inverted.add (h : Inverted s m t c) (h' : Inverted t n r d) :
    Inverted s (fun u v => m u v + n u v) r (c || d) where
  grid := h.grid.trans h'.grid
  isLit := by
    intro u v hgrid
    rw [h'.isLit u v (h.grid.onGrid_iff.2 hgrid), h.isLit u v hgrid, Bool.xor_assoc,
      decide_odd_add]
  collided := by
    rw [Bool.or_eq_true_iff, h.collided, h'.collided, ← exists_or]
    refine exists_congr fun u => ?_
    rw [← exists_or]
    refine exists_congr fun v => ?_
    rw [h.grid.onGrid_iff, ← and_or_left]
    refine and_congr_right fun hgrid => ?_
    rw [collides_add, h.isLit u v hgrid]

end Inverted

/-! ## Drawing dots -/

/-- The screen on which the pixel at `(u, v)` is inverted, if `lit`. -/
def xorAt (s : Screen) (u v : Int) (lit : Bool) : Screen :=
  { s with
    pixels := s.pixels.setIfInBounds (v * s.width + u).toNat (s.isLit u v ^^ lit)
    size_eq := Array.size_setIfInBounds.trans s.size_eq }

/-- No other position has the place of the pixel that is inverted. -/
theorem isLit_xorAt {s : Screen} {u v u' v' : Int} (h : s.OnGrid u v) (h' : s.OnGrid u' v')
    (lit : Bool) :
    (s.xorAt u v lit).isLit u' v' = (s.isLit u' v' ^^ decide (lit = true ∧ u = u' ∧ v = v')) := by
  have hplace := rowMajor_lt_size h.1 h.2
  have hplace' := rowMajor_lt_size h'.1 h'.2
  have hlt : (v * s.width + u).toNat < s.pixels.size := by omega
  have hnew : (s.xorAt u v lit).isLit u' v' =
      (s.pixels.setIfInBounds (v * s.width + u).toNat (s.isLit u v ^^ lit)).getD
        (v' * s.width + u').toNat false := rfl
  rw [hnew, Array.getD_eq_getD_getElem?]
  by_cases heq : u = u' ∧ v = v'
  · obtain ⟨rfl, rfl⟩ := heq
    rw [Array.getElem?_setIfInBounds_self, if_pos hlt]
    simp
  · have hne : (v * s.width + u).toNat ≠ (v' * s.width + u').toNat := by
      intro hsame
      exact heq (rowMajor_inj h h' (by omega))
    rw [Array.getElem?_setIfInBounds_ne hne, ← Array.getD_eq_getD_getElem?]
    simp [isLit, heq]

section Draw

variable {s : Screen} (hw : 0 < s.width) (hh : 0 < s.height)

include hw hh in
/-- A dot inverts the pixel that it hits, and nothing else. -/
theorem inverted_plot (dot : Dot) :
    ∃ t c, (∀ collided, Drawing.plot ⟨s, collided⟩ dot = .ok ⟨t, collided || c⟩) ∧
      Inverted s (fun u v => if s.IsHit dot u v then 1 else 0) t c := by
  rcases place_cases hw hh dot.x dot.y with ⟨u, v, k, hgrid, hplace, hk, hfalls⟩ | ⟨hplace, hnone⟩
  · -- one pixel is inverted, if the dot is lit, and it is put out if it was lit
    have hold : s.isLit u v = s.pixels[k] := by
      rw [isLit, ← hk, Array.getD_eq_getD_getElem?, Array.getElem?_eq_getElem k.isLt]
      rfl
    have hhit : ∀ u' v', s.IsHit dot u' v' ↔ dot.lit = true ∧ u = u' ∧ v = v' :=
      fun u' v' => and_congr_right fun _ => hfalls u' v'
    refine ⟨s.xorAt u v dot.lit, s.isLit u v && dot.lit, ?_, ⟨rfl, rfl, rfl, rfl⟩, ?_, ?_⟩
    · intro collided
      simp only [Drawing.plot, hplace, xorAt, hold, ← hk, Array.setIfInBounds_def, k.isLt, dif_pos]
    · intro u' v' hgrid'
      rw [isLit_xorAt hgrid hgrid']
      simp only [decide_odd_ite, hhit]
    · simp only [collides_ite, hhit, Bool.and_eq_true]
      constructor
      · rintro ⟨hlit, hdot⟩
        exact ⟨u, v, hgrid, hlit, hdot, rfl, rfl⟩
      · rintro ⟨_, _, _, hlit, hdot, rfl, rfl⟩
        exact ⟨hlit, hdot⟩
  · -- the point is beside the grid, and no pixel is hit
    have hhit : ∀ u v, s.OnGrid u v → ¬ s.IsHit dot u v :=
      fun u v hgrid h => hnone u v hgrid h.2
    refine ⟨s, false, ?_, .refl s, ?_, ?_⟩
    · intro collided
      simp only [Drawing.plot, hplace, Bool.or_false]
    · intro u v hgrid
      rw [if_neg (hhit u v hgrid)]
      simp
    · simp only [Bool.false_eq_true, false_iff, not_exists, not_and]
      intro u v hgrid
      rw [if_neg (hhit u v hgrid)]
      simp [Collides]

include hw hh in
/-- Dots one after the other invert every pixel as often as it is hit. -/
theorem inverted_plotAll (dots : List Dot) :
    ∃ t c, (∀ collided, Drawing.plotAll ⟨s, collided⟩ dots = .ok ⟨t, collided || c⟩) ∧
      Inverted s (fun u v => dots.countP fun dot => s.IsHit dot u v) t c := by
  induction dots generalizing s with
  | nil => exact ⟨s, false, by simp [Drawing.plotAll], inverted_zero s⟩
  | cons dot rest ih =>
      obtain ⟨t, c, hplot, hfirst⟩ := inverted_plot hw hh dot
      -- the dot has left the grid as it is, so that the others hit the same pixels
      obtain ⟨r, d, hrest, hothers⟩ :=
        @ih t (by rw [hfirst.grid.width]; exact hw) (by rw [hfirst.grid.height]; exact hh)
      refine ⟨r, c || d, ?_, ?_⟩
      · intro collided
        simp only [Drawing.plotAll, hplot, hrest, Bool.or_assoc]
      · have hadd := hfirst.add hothers
        simp only [hfirst.grid.isHit_iff] at hadd
        simpa only [List.countP_cons, decide_eq_true_eq, Nat.add_comm] using hadd

end Draw

/-! ## Drawing sprites -/

/-- Within one period different steps from a point have different remainders. -/
theorem eq_of_fmod_eq {a w : Int} {b b' : Nat} (hb : b < w) (hb' : b' < w)
    (h : (a + b).fmod w = (a + b').fmod w) : b = b' := by
  have hw : 0 ≤ w := by omega
  rw [Int.fmod_eq_emod_of_nonneg _ hw, Int.fmod_eq_emod_of_nonneg _ hw] at h
  have hrem : (b : Int) % w = b' % w := Int.ModEq.add_left_cancel' a h
  rw [Int.emod_eq_of_lt (by omega) hb, Int.emod_eq_of_lt (by omega) hb'] at hrem
  exact Int.ofNat_inj.1 hrem

variable {s : Screen} {x y : Int} {rows : List Int}

/-- On a screen that does not wrap, or on which the sprite has room, no two bits hit one pixel. -/
theorem hits_le_one (hroom : s.wrap = false ∨ 8 ≤ s.width ∧ rows.length ≤ s.height) (u v : Int) :
    s.hits x y rows u v ≤ 1 := by
  refine Finset.card_le_one.2 ?_
  rintro ⟨r, b⟩ hmem ⟨r', b'⟩ hmem'
  obtain ⟨hrange, _, hfalls⟩ := Finset.mem_filter.1 hmem
  obtain ⟨hrange', _, hfalls'⟩ := Finset.mem_filter.1 hmem'
  simp only [Finset.mem_product, Finset.mem_range] at hrange hrange'
  rw [Prod.mk.injEq]
  -- where two bits fall on one pixel, their points are equal, at least up to a side
  by_cases hwrap : s.wrap = true
  · rw [Falls, if_pos hwrap] at hfalls hfalls'
    have hsides : 8 ≤ s.width ∧ rows.length ≤ s.height := by
      rcases hroom with hno | hsides
      · rw [hwrap] at hno
        cases hno
      · exact hsides
    constructor
    · exact eq_of_fmod_eq (by omega) (by omega) (hfalls.2.trans hfalls'.2.symm)
    · exact eq_of_fmod_eq (by omega) (by omega) (hfalls.1.trans hfalls'.1.symm)
  · rw [Falls, if_neg hwrap] at hfalls hfalls'
    dsimp only at hfalls hfalls'
    omega

/-- A pixel that is inverted at most once is put out if it is lit before and not afterwards. -/
theorem collides_of_le_one {lit : Bool} {n : Nat} (hn : n ≤ 1) :
    Collides lit n ↔ lit = true ∧ (lit ^^ decide (Odd n)) = false := by
  have hcases : n = 0 ∨ n = 1 := by omega
  rcases hcases with rfl | rfl <;> cases lit <;> simp [Collides]

theorem hits_eq_zero {u v : Int}
    (h : ∀ r b, r < rows.length → b < 8 → ¬ s.Hits x y rows u v r b) : s.hits x y rows u v = 0 := by
  refine Finset.card_eq_zero.2 (Finset.filter_eq_empty_iff.2 ?_)
  rintro ⟨r, b⟩ hmem
  simp only [Finset.mem_product, Finset.mem_range] at hmem
  exact h r b hmem.1 hmem.2

/-- A sprite of at most fifteen rows is drawn, and inverts every pixel as often as it hits it. -/
theorem inverted_draw (hw : 0 < s.width) (hh : 0 < s.height) (hrows : rows.length ≤ maxSpriteRows) :
    ∃ d, s.draw x y rows = .ok d ∧ Inverted s (s.hits x y rows) d.screen d.collided := by
  obtain ⟨t, c, hplot, hinverted⟩ := inverted_plotAll hw hh (dots x y rows)
  refine ⟨⟨t, c⟩, ?_, ?_⟩
  · rw [draw, if_neg (by omega), hplot, Bool.false_or]
  · simpa only [← hits_eq_countP] using hinverted

/-- **A drawing inverts what it hits.** On a screen with positive sides a sprite of at most fifteen
rows can be drawn anywhere. Every pixel is then what it was, or the opposite if it was hit an odd
number of times; a pixel that no bit hits is as before. The drawing collides if a lit pixel is hit,
or an unlit one at least twice. If the screen does not wrap, or has room for the sprite, this means
that a pixel is put out. A taller sprite is refused. -/
theorem draw_inverts_hits (hw : 1 ≤ s.width) (hh : 1 ≤ s.height) (x y : Int) (rows : List Int) :
    (rows.length ≤ 15 → ∃ d, s.draw x y rows = .ok d ∧ SameGrid s d.screen ∧
      (∀ u v, s.OnGrid u v → ∃ lit, s.pixel u v = .ok lit ∧
        d.screen.pixel u v = .ok (lit ^^ decide (Odd (s.hits x y rows u v))) ∧
        ((∀ r b, r < rows.length → b < 8 → ¬ s.Hits x y rows u v r b) →
          d.screen.pixel u v = .ok lit)) ∧
      (d.collided = true ↔ ∃ u v, s.OnGrid u v ∧
        (s.pixel u v = .ok true ∧ 1 ≤ s.hits x y rows u v ∨
          s.pixel u v = .ok false ∧ 2 ≤ s.hits x y rows u v)) ∧
      (s.wrap = false ∨ 8 ≤ s.width ∧ rows.length ≤ s.height →
        (d.collided = true ↔ ∃ u v, s.OnGrid u v ∧
          s.pixel u v = .ok true ∧ d.screen.pixel u v = .ok false))) ∧
    (15 < rows.length → s.draw x y rows = .error (.spriteTooTall rows.length)) := by
  refine ⟨?_, fun htall => draw_eq_error_of_tall htall⟩
  intro hrows
  obtain ⟨d, hd, hinverted⟩ := @inverted_draw s x y rows (by omega) (by omega) hrows
  have hpixel : ∀ {u v}, s.OnGrid u v →
      d.screen.pixel u v = .ok (s.isLit u v ^^ decide (Odd (s.hits x y rows u v))) := by
    intro u v hgrid
    rw [pixel_of_onGrid (hinverted.grid.onGrid_iff.2 hgrid), hinverted.isLit u v hgrid]
  refine ⟨d, hd, hinverted.grid, ?_, ?_, ?_⟩
  · intro u v hgrid
    refine ⟨s.isLit u v, pixel_of_onGrid hgrid, hpixel hgrid, ?_⟩
    intro hnone
    rw [hpixel hgrid, hits_eq_zero hnone]
    simp
  · rw [hinverted.collided]
    refine exists_congr fun u => exists_congr fun v => and_congr_right fun hgrid => ?_
    rw [pixel_of_onGrid hgrid, Except.ok.injEq, Except.ok.injEq, Collides]
  · intro hroom
    rw [hinverted.collided]
    refine exists_congr fun u => exists_congr fun v => and_congr_right fun hgrid => ?_
    rw [pixel_of_onGrid hgrid, hpixel hgrid, Except.ok.injEq, Except.ok.injEq,
      collides_of_le_one (hits_le_one hroom u v)]

/-- Two bits of a row come in at one pixel of a narrow screen. It stays unlit, and the drawing
collides all the same. -/
theorem draw_inverts_hits_twice :
    let s : Screen := ⟨4, 1, true, {}, #[false, false, false, false], rfl⟩
    1 ≤ s.width ∧ 1 ≤ s.height ∧ s.hits 3 5 [0x88] 3 0 = 2 ∧
      ∃ d, s.draw 3 5 [0x88] = .ok d ∧ d.screen.pixel 3 0 = .ok false ∧ d.collided = true := by
  intro s
  have hw : 1 ≤ s.width := by decide
  have hh : 1 ≤ s.height := by decide
  have hhits : s.hits 3 5 [0x88] 3 0 = 2 := by decide
  have hgrid : s.OnGrid 3 0 := ⟨by decide, by decide⟩
  obtain ⟨d, hd, _, hpixel, hcollided, _⟩ := (draw_inverts_hits hw hh 3 5 [0x88]).1 (by decide)
  refine ⟨hw, hh, hhits, d, hd, ?_, ?_⟩
  · obtain ⟨lit, hlit, hafter, _⟩ := hpixel 3 0 hgrid
    have hbefore : s.pixel 3 0 = .ok false := rfl
    cases hbefore.symm.trans hlit
    rw [hafter, hhits]
    rfl
  · exact hcollided.2 ⟨3, 0, hgrid, .inr ⟨rfl, Nat.le_of_eq hhits.symm⟩⟩

end Screen

end Chip8
