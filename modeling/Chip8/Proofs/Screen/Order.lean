import Chip8.Proofs.Screen.Hits
import Mathlib.Algebra.BigOperators.Group.Finset.Lemmas
import Mathlib.Algebra.Group.Action.Defs
import Mathlib.Algebra.Ring.Parity

set_option autoImplicit false

/-! # The order of drawing does not matter

Sprites that are drawn one after the other invert every pixel as often as all of them together hit
it (`inverted_drawEach`). In this sum the order is gone, and the sum determines the pixels that are
left and whether any drawing collided (`Inverted.unique`). Which of the drawings collide is another
matter: that a pixel is put out depends on what was drawn before.
-/

namespace Chip8

namespace Screen

/-! ## Several sprites -/

/-- A sprite and where it is drawn. -/
structure Sprite where
  x : Int
  y : Int
  rows : List Int
deriving DecidableEq, Repr

/-- Draws sprites one after the other, and says of each whether it collided. -/
def drawEach (s : Screen) : List Sprite → Except Fault (Screen × List Bool)
  | [] => .ok (s, [])
  | p :: rest =>
    match s.draw p.x p.y p.rows with
    | .error e => .error e
    | .ok d => (d.screen.drawEach rest).map fun (t, flags) => (t, d.collided :: flags)

/-- How many bits of several sprites hit the pixel at `(u, v)`. -/
def totalHits (s : Screen) (ps : List Sprite) (u v : Int) : Nat :=
  (ps.map fun p => s.hits p.x p.y p.rows u v).sum

theorem SameGrid.hits_eq {s t : Screen} (h : SameGrid s t) (x y : Int) (rows : List Int)
    (u v : Int) : t.hits x y rows u v = s.hits x y rows u v := by
  rw [hits_eq_countP, hits_eq_countP]
  simp only [h.isHit_iff]

theorem SameGrid.totalHits_eq {s t : Screen} (h : SameGrid s t) (ps : List Sprite) :
    t.totalHits ps = s.totalHits ps := by
  unfold totalHits
  simp only [h.hits_eq]

/-! ## What the number of inversions determines -/

/-- Every place in the row-by-row order is that of a position on the grid. -/
theorem exists_onGrid {s : Screen} (hw : 0 < s.width) {k : Nat} (hk : k < s.pixels.size) :
    ∃ u v, s.OnGrid u v ∧ (v * s.width + u).toNat = k := by
  have hlt : (k : Int) < s.height * s.width := by
    have hsize := s.size_eq
    have hcomm := Int.mul_comm s.width s.height
    omega
  have hplace : (k : Int) / s.width * s.width + k % s.width = k := Int.ediv_mul_add_emod k s.width
  refine ⟨k % s.width, k / s.width, ⟨⟨?_, ?_⟩, ?_, ?_⟩, ?_⟩
  · exact Int.emod_nonneg k (by omega)
  · exact Int.emod_lt_of_pos k hw
  · exact Int.ediv_nonneg (by omega) (by omega)
  · exact Int.ediv_lt_of_lt_mul hw hlt
  · omega

/-- Two screens on the same grid with the same pixels lit are equal. -/
theorem SameGrid.eq_of_isLit {s t : Screen} (h : SameGrid s t) (hw : 0 < s.width)
    (hlit : ∀ u v, s.OnGrid u v → t.isLit u v = s.isLit u v) : t = s := by
  have hpixels : t.pixels = s.pixels := by
    refine Array.ext (by rw [t.size_eq, s.size_eq, h.width, h.height]) ?_
    intro k hk hk'
    obtain ⟨u, v, hgrid, hplace⟩ := exists_onGrid hw hk'
    have hpixel := hlit u v hgrid
    rw [isLit, isLit, h.width, hplace] at hpixel
    simpa [hk, hk'] using hpixel
  obtain ⟨width, height, wrap, palette, pixels, size_eq⟩ := t
  obtain ⟨hwidth, hheight, hwrap, hpalette⟩ := h
  dsimp only at hwidth hheight hwrap hpalette hpixels
  subst hwidth hheight hwrap hpalette hpixels
  rfl

/-- What inversions leave is determined by how many there are of each pixel. -/
theorem Inverted.unique {s t t' : Screen} {n : Int → Int → Nat} {c c' : Bool} (hw : 0 < s.width)
    (h : Inverted s n t c) (h' : Inverted s n t' c') : t' = t ∧ c' = c := by
  constructor
  · have hgrid : SameGrid t t' :=
      ⟨h'.grid.width.trans h.grid.width.symm, h'.grid.height.trans h.grid.height.symm,
        h'.grid.wrap.trans h.grid.wrap.symm, h'.grid.palette.trans h.grid.palette.symm⟩
    refine hgrid.eq_of_isLit (by rw [h.grid.width]; exact hw) ?_
    intro u v hon
    have hon' := h.grid.onGrid_iff.1 hon
    rw [h.isLit u v hon', h'.isLit u v hon']
  · exact Bool.eq_iff_iff.2 (h'.collided.trans h.collided.symm)

/-- Pixels that are inverted an even number of times each are as before. -/
theorem Inverted.eq_of_even {s t : Screen} {n : Int → Int → Nat} {c : Bool} (hw : 0 < s.width)
    (h : Inverted s n t c) (hn : ∀ u v, Even (n u v)) : t = s := by
  refine h.grid.eq_of_isLit hw ?_
  intro u v hgrid
  have hodd : ¬ Odd (n u v) := Nat.not_odd_iff_even.2 (hn u v)
  rw [h.isLit u v hgrid, decide_eq_false hodd, Bool.xor_false]

/-! ## Series of drawings -/

theorem totalHits_perm (s : Screen) {ps qs : List Sprite} (h : ps.Perm qs) :
    s.totalHits ps = s.totalHits qs := by
  funext u v
  exact (h.map _).sum_eq

/-- Sprites that are drawn an even number of times each hit every pixel an even number of times. -/
theorem even_totalHits (s : Screen) {ps : List Sprite} (h : ∀ p ∈ ps, Even (ps.count p))
    (u v : Int) : Even (s.totalHits ps u v) := by
  -- the sprites are counted by kind: a sum of multiples, each of an even number
  rw [totalHits, Finset.sum_list_map_count]
  refine Finset.even_sum _ fun p hp => ?_
  rw [smul_eq_mul]
  exact (h p (List.mem_toFinset.1 hp)).mul_right _

section Draw

variable {s : Screen} (hw : 0 < s.width) (hh : 0 < s.height)

include hw hh in
/-- Every drawing leaves the grid as it is, so that the others hit the same pixels. -/
theorem inverted_drawEach {ps : List Sprite} (hrows : ∀ p ∈ ps, p.rows.length ≤ maxSpriteRows) :
    ∃ t flags, s.drawEach ps = .ok (t, flags) ∧
      Inverted s (s.totalHits ps) t (flags.any id) := by
  induction ps generalizing s with
  | nil => exact ⟨s, [], rfl, inverted_zero s⟩
  | cons p rest ih =>
      obtain ⟨d, hd, hfirst⟩ :=
        @inverted_draw s p.x p.y p.rows hw hh (hrows p List.mem_cons_self)
      obtain ⟨t, flags, hrest, hothers⟩ :=
        @ih d.screen (by rw [hfirst.grid.width]; exact hw) (by rw [hfirst.grid.height]; exact hh)
          fun q hq => hrows q (List.mem_cons_of_mem p hq)
      refine ⟨t, d.collided :: flags, ?_, ?_⟩
      · simp only [drawEach, hd, hrest]
        rfl
      · rw [hfirst.grid.totalHits_eq] at hothers
        exact hfirst.add hothers

end Draw

/-- **The order of drawing does not matter.** Sprites of at most fifteen rows leave the same screen
in any order, and if a drawing collides in one order, one does in the other. If every sprite is
drawn an even number of times, the screen is as it was. -/
theorem drawEach_of_perm {s : Screen} (hw : 1 ≤ s.width) (hh : 1 ≤ s.height) {ps qs : List Sprite}
    (hrows : ∀ p ∈ ps, p.rows.length ≤ 15) (hperm : ps.Perm qs) :
    ∃ t flags flags', s.drawEach ps = .ok (t, flags) ∧ s.drawEach qs = .ok (t, flags') ∧
      (true ∈ flags ↔ true ∈ flags') ∧ ((∀ p ∈ ps, Even (ps.count p)) → t = s) := by
  have hw' : 0 < s.width := by omega
  have hh' : 0 < s.height := by omega
  obtain ⟨t, flags, hps, hinverted⟩ := inverted_drawEach hw' hh' hrows
  obtain ⟨t', flags', hqs, hinverted'⟩ :=
    inverted_drawEach hw' hh' (fun p hp => hrows p (hperm.mem_iff.2 hp))
  -- both orders invert every pixel equally often, and so they leave the same
  rw [← totalHits_perm s hperm] at hinverted'
  obtain ⟨rfl, hflags⟩ := hinverted.unique hw' hinverted'
  refine ⟨t', flags, flags', hps, hqs, ?_, fun heven => ?_⟩
  · have hany : ∀ l : List Bool, l.any id = true ↔ true ∈ l := by simp
    rw [← hany, ← hany, hflags]
  · exact hinverted.eq_of_even hw' (even_totalHits s heven)

/-- Two sprites that overlap are drawn twice each, in two orders. They do not collide equally often,
but in both orders they do, and in the end the screen is as it was. -/
theorem drawEach_of_perm_twice :
    let s : Screen := ⟨8, 2, false, {}, Array.replicate 16 false, rfl⟩
    let p : Sprite := ⟨0, 0, [0xC0]⟩
    let q : Sprite := ⟨1, -1, [0xFF, 0x80]⟩
    1 ≤ s.width ∧ 1 ≤ s.height ∧ [p, q, p, q].Perm [p, p, q, q] ∧
      s.drawEach [p, q, p, q] = .ok (s, [false, true, true, true]) ∧
      s.drawEach [p, p, q, q] = .ok (s, [false, true, false, true]) := by
  intro s p q
  have hw : 1 ≤ s.width := by decide
  have hh : 1 ≤ s.height := by decide
  have hperm : [p, q, p, q].Perm [p, p, q, q] := by decide
  obtain ⟨t, flags, flags', hps, hqs, _, heven⟩ := drawEach_of_perm hw hh (by decide) hperm
  cases heven (by decide)
  have hflags : (s.drawEach [p, q, p, q]).toOption.map Prod.snd =
      some [false, true, true, true] := by decide +kernel
  have hflags' : (s.drawEach [p, p, q, q]).toOption.map Prod.snd =
      some [false, true, false, true] := by decide +kernel
  rw [hps] at hflags
  rw [hqs] at hflags'
  rw [hps, hqs, ← Option.some.inj hflags, ← Option.some.inj hflags']
  exact ⟨hw, hh, hperm, rfl, rfl⟩

end Screen

end Chip8
