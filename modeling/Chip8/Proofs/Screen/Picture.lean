import Chip8.Proofs.Screen.Order
import Chip8.Screen.Frame
import Mathlib.Data.Set.Card

set_option autoImplicit false

/-! # The picture of a screen

A screen keeps its pixels in one row-by-row list, a frame cuts this list into rows, and the colour
image of a frame is a list of bytes again. The rows put together are the list of the screen
(`flatten_rows_frame`), so that both ways of counting places agree, whatever the sides of the screen
are.

From this follow the bytes of every pixel and the number of lit ones, and that no two pictures with
the same sides and levels have the same image, unless both levels are the same
(`rgb_exact`). With equal levels the colour does not tell whether a pixel is lit
(`color_of_equal_levels`).
-/

namespace Chip8

/-! ## Lists cut into rows -/

section Rows

variable {α β : Type}

/-- Counting row by row is counting. -/
theorem flatMap_range_rows (f : Nat → α) (width height : Nat) :
    ((List.range height).flatMap fun y => (List.range width).map fun x => f (y * width + x)) =
      (List.range (height * width)).map f := by
  induction height with
  | zero => simp
  | succ height ih =>
      rw [List.range_succ, List.flatMap_append, ih, List.flatMap_singleton, Nat.succ_mul,
        List.range_add, List.map_append, List.map_map]
      rfl

/-- Where the copies of an element stand if every element is written `k` times. -/
theorem getElem?_flatMap_replicate (f : α → β) (l : List α) {k c : Nat} (hc : c < k) (i : Nat) :
    (l.flatMap fun a => List.replicate k (f a))[k * i + c]? = l[i]?.map f := by
  induction l generalizing i with
  | nil => simp
  | cons a rest ih =>
      rw [List.flatMap_cons]
      cases i with
      | zero =>
          rw [Nat.mul_zero, Nat.zero_add, List.getElem?_append_left (by simpa using hc)]
          simp [hc]
      | succ i =>
          have hplace : k * (i + 1) + c - k = k * i + c := by
            rw [Nat.mul_succ]
            omega
          rw [List.getElem?_append_right (by rw [List.length_replicate, Nat.mul_succ]; omega),
            List.length_replicate, hplace, ih, List.getElem?_cons_succ]

/-- Nothing is lost if different elements are written differently. -/
theorem flatMap_replicate_inj {f : α → β} (hf : Function.Injective f) {l l' : List α} {k : Nat}
    (hk : 0 < k) :
    (l.flatMap fun a => List.replicate k (f a)) = (l'.flatMap fun a => List.replicate k (f a)) ↔
      l = l' := by
  refine ⟨fun h => List.ext_getElem? fun i => ?_, fun h => by rw [h]⟩
  have hplace := congrArg (fun bytes => bytes[k * i + 0]?) h
  simp only [getElem?_flatMap_replicate f _ hk] at hplace
  exact Option.map_injective hf hplace

end Rows

/-! ## Levels -/

theorem toNat_clampByte_of_isByte {n : Int} (h : isByte n = true) :
    ((clampByte n).toNat : Int) = n := by
  simp only [isByte, Bool.and_eq_true, decide_eq_true_eq] at h
  rw [toNat_clampByte]
  omega

/-- Different levels have different bytes. -/
theorem Palette.IsBytes.injective {p : Palette} (h : p.IsBytes)
    (hne : p.background ≠ p.foreground) :
    Function.Injective fun lit => clampByte (p.level lit) := by
  intro lit lit' hbytes
  have hlevels : p.level lit = p.level lit' := by
    rw [← toNat_clampByte_of_isByte (h.level lit), ← toNat_clampByte_of_isByte (h.level lit')]
    exact congrArg (fun b : UInt8 => (b.toNat : Int)) hbytes
  cases lit with
  | false =>
      cases lit' with
      | false => rfl
      | true => exact absurd hlevels hne
  | true =>
      cases lit' with
      | false => exact absurd hlevels.symm hne
      | true => rfl

/-! ## The rows of a picture -/

namespace Screen

variable {s : Screen}

theorem length_rows_frame (s : Screen) : s.frame.rows.length = s.height.toNat := by
  simp [frame]

/-- The rows of the picture, put together, are the pixels of the screen. -/
theorem flatten_rows_frame (hw : 0 ≤ s.width) (hh : 0 ≤ s.height) :
    s.frame.rows.flatten = s.pixels.toList := by
  have hsize : s.height.toNat * s.width.toNat = s.pixels.size := by
    rw [s.size_eq, Int.toNat_mul hw hh, Nat.mul_comm]
  have hrows : s.frame.rows.flatten =
      (List.range s.pixels.size).map fun k => s.pixels.getD k false := by
    rw [← hsize]
    exact flatMap_range_rows (fun k => s.pixels.getD k false) _ _
  rw [hrows]
  refine List.ext_getElem (by simp) fun k hk hk' => ?_
  have hlt : k < s.pixels.size := by simpa using hk'
  simp [hlt]

/-- Two pictures of the same size have the same rows if the screens have the same pixels. -/
theorem rows_frame_inj {t : Screen} (hw : 0 ≤ s.width) (hh : 0 ≤ s.height)
    (hwidth : t.width = s.width) (hheight : t.height = s.height) :
    s.frame.rows = t.frame.rows ↔ s.pixels.toList = t.pixels.toList := by
  constructor
  · intro hrows
    rw [← flatten_rows_frame hw hh, hrows, flatten_rows_frame (by omega) (by omega)]
  · intro hpixels
    have harray : s.pixels = t.pixels := Array.toList_inj.1 hpixels
    simp only [frame, hwidth, hheight, harray]

/-! ## A pixel of the picture -/

section Position

variable {x y : Int}

/-- The place of a position, in numbers that begin at zero. -/
theorem toNat_rowMajor (h : s.OnGrid x y) :
    (y * s.width + x).toNat = y.toNat * s.width.toNat + x.toNat := by
  obtain ⟨⟨hx, _⟩, hy, _⟩ := h
  have hw : 0 ≤ s.width := by omega
  rw [Int.toNat_add (Int.mul_nonneg hy hw) hx, Int.toNat_mul hy hw]

theorem getElem?_pixels (h : s.OnGrid x y) :
    s.pixels.toList[(y * s.width + x).toNat]? = some (s.isLit x y) := by
  have hplace := rowMajor_lt_size h.1 h.2
  have hlt : (y * s.width + x).toNat < s.pixels.size := by omega
  rw [isLit, Array.getElem?_toList, Array.getD_eq_getD_getElem?, Array.getElem?_eq_getElem hlt]
  rfl

/-- The picture has a pixel of the screen at its position. -/
theorem isLit_frame (h : s.OnGrid x y) : s.frame.isLit x y = .ok (s.isLit x y) := by
  obtain ⟨⟨hx, hxw⟩, hy, hyh⟩ := h
  have hrow : y.toNat < s.frame.rows.length := by
    rw [length_rows_frame]
    omega
  have hcolumn : s.frame.rows[y.toNat].length = s.width.toNat := by simp [frame]
  have hj : indexFromEnd? s.frame.rows.length y = .ok ⟨y.toNat, hrow⟩ := dif_pos (by omega)
  have hk : indexFromEnd? s.frame.rows[y.toNat].length x = .ok ⟨x.toNat, by omega⟩ :=
    dif_pos (by omega)
  simp only [Frame.isLit, hj, Fin.getElem_fin, hk, Except.map]
  rw [isLit, toNat_rowMajor ⟨⟨hx, hxw⟩, hy, hyh⟩]
  simp [frame]

theorem color_frame (h : s.OnGrid x y) :
    s.frame.color x y = .ok (s.palette.level (s.isLit x y)) := by
  rw [Frame.color, isLit_frame h]
  rfl

end Position

/-! ## The number of lit pixels -/

/-- The elements of a list that are true, counted by their places. -/
theorem count_true_eq_card (l : List Bool) :
    l.count true = ((Finset.range l.length).filter fun k => l[k]? = some true).card := by
  have hlist : l = (List.range l.length).map fun k => l.getD k false :=
    List.ext_getElem (by simp) fun k hk _ => by simp [hk]
  conv_lhs => rw [hlist]
  rw [List.count, List.countP_map, Finset.card, Finset.filter_val,
    ← Multiset.countP_eq_card_filter, Finset.range_val, Multiset.range, Multiset.coe_countP]
  refine List.countP_congr fun k hk => ?_
  have hlt : k < l.length := List.mem_range.1 hk
  simp [hlt]

/-- The number of lit pixels is that of the positions that are lit. -/
theorem litCount_frame (hw : 0 < s.width) (hh : 0 < s.height) :
    s.frame.litCount =
      Set.ncard {p : Int × Int | s.OnGrid p.1 p.2 ∧ s.pixel p.1 p.2 = .ok true} := by
  -- a position goes to its place in the list, and every place is that of one position
  have himage : (fun p : Int × Int => (p.2 * s.width + p.1).toNat) ''
      {p | s.OnGrid p.1 p.2 ∧ s.pixel p.1 p.2 = .ok true} =
      ((Finset.range s.pixels.toList.length).filter
        fun k => s.pixels.toList[k]? = some true : Finset Nat) := by
    ext k
    simp only [Set.mem_image, Set.mem_ofPred_eq, Finset.coe_filter, Finset.mem_range, Prod.exists]
    constructor
    · rintro ⟨x, y, ⟨hgrid, hlit⟩, rfl⟩
      have hplace := getElem?_pixels hgrid
      rw [pixel_of_onGrid hgrid, Except.ok.injEq] at hlit
      rw [hlit] at hplace
      exact ⟨(List.getElem?_eq_some_iff.1 hplace).1, hplace⟩
    · rintro ⟨hk, hlit⟩
      rw [Array.length_toList] at hk
      obtain ⟨x, y, hgrid, rfl⟩ := exists_onGrid hw hk
      rw [getElem?_pixels hgrid, Option.some.injEq] at hlit
      exact ⟨x, y, ⟨hgrid, by rw [pixel_of_onGrid hgrid, hlit]⟩, rfl⟩
  have hinj : Set.InjOn (fun p : Int × Int => (p.2 * s.width + p.1).toNat)
      {p | s.OnGrid p.1 p.2 ∧ s.pixel p.1 p.2 = .ok true} := by
    rintro ⟨x, y⟩ ⟨hgrid, _⟩ ⟨x', y'⟩ ⟨hgrid', _⟩ hplace
    dsimp only at hgrid hgrid' hplace
    have hfrom := rowMajor_lt_size hgrid.1 hgrid.2
    have hfrom' := rowMajor_lt_size hgrid'.1 hgrid'.2
    have hsame := rowMajor_inj hgrid hgrid' (by omega)
    exact Prod.ext hsame.1 hsame.2
  rw [Frame.litCount, flatten_rows_frame (by omega) (by omega), count_true_eq_card,
    ← Set.ncard_coe_finset, ← himage, hinj.ncard_image]

/-! ## The history of a screen -/

/-- What can be done to the pixels of a screen. -/
inductive Stroke where
  | draw (x y : Int) (rows : List Int)
  | clear
deriving DecidableEq, Repr

/-- The screen after a stroke; a drawing that is refused leaves it as it is. -/
def stroke (s : Screen) : Stroke → Screen
  | .draw x y rows =>
    match s.draw x y rows with
    | .ok d => d.screen
    | .error _ => s
  | .clear => s.clear

/-- An unlit screen after strokes, one after the other. -/
def painted (width height : Int) (wrap : Bool) (palette : Palette) (strokes : List Stroke) :
    Except Fault Screen :=
  (ofSize width height wrap palette).map fun s => strokes.foldl stroke s

theorem sameGrid_stroke (hw : 0 < s.width) (hh : 0 < s.height) (st : Stroke) :
    SameGrid s (s.stroke st) := by
  cases st with
  | clear => exact sameGrid_clear s
  | draw x y rows =>
      by_cases hrows : rows.length ≤ maxSpriteRows
      · obtain ⟨d, hd, hgrid⟩ := exists_draw hw hh x y hrows
        simp only [stroke, hd]
        exact hgrid
      · -- a sprite that is too tall is refused before anything is drawn
        simp only [stroke, draw_eq_error_of_tall (by omega : maxSpriteRows < rows.length)]
        exact SameGrid.refl s

theorem sameGrid_strokes (hw : 0 < s.width) (hh : 0 < s.height) (strokes : List Stroke) :
    SameGrid s (strokes.foldl stroke s) := by
  induction strokes generalizing s with
  | nil => exact SameGrid.refl s
  | cons st rest ih =>
      have hgrid := sameGrid_stroke hw hh st
      exact hgrid.trans (ih (by rw [hgrid.width]; exact hw) (by rw [hgrid.height]; exact hh))

/-- A screen with positive sides can be had, and keeps them and its palette. -/
theorem painted_ok {w h : Int} (hw : 0 < w) (hh : 0 < h) (wrap : Bool) (p : Palette)
    (strokes : List Stroke) : ∃ s, painted w h wrap p strokes = .ok s ∧
      s.width = w ∧ s.height = h ∧ s.palette = p := by
  have hsides : ¬ w * h < 0 := Int.not_lt.2 (Int.mul_nonneg (by omega) (by omega))
  unfold painted ofSize
  rw [if_neg hsides]
  have hgrid := @sameGrid_strokes
    { width := w, height := h, wrap, palette := p,
      pixels := Array.replicate (w * h).toNat false, size_eq := by simp } hw hh strokes
  exact ⟨_, rfl, hgrid.width, hgrid.height, hgrid.palette⟩

/-! ## The colour image -/

theorem length_of_rgb_frame {bytes : List UInt8} (hw : 0 ≤ s.width) (hh : 0 ≤ s.height)
    (hbytes : s.frame.rgb = .ok bytes) : (bytes.length : Int) = 3 * (s.width * s.height) := by
  have hsize := s.size_eq
  have hpixels : 0 ≤ s.width * s.height := Int.mul_nonneg hw hh
  rw [Frame.length_of_rgb hbytes, flatten_rows_frame hw hh, Array.length_toList]
  omega

/-- The three bytes of a pixel in the image of a screen are its level. -/
theorem byte_of_rgb {bytes : List UInt8} (hp : s.palette.IsBytes) (hw : 0 ≤ s.width)
    (hh : 0 ≤ s.height) (hbytes : s.frame.rgb = .ok bytes) {x y : Int} (h : s.OnGrid x y) {c : Nat}
    (hc : c < 3) : ∃ b, bytes[(3 * (y * s.width + x) + c).toNat]? = some b ∧
      (b.toNat : Int) = s.palette.level (s.isLit x y) := by
  have hfrom := rowMajor_lt_size h.1 h.2
  have hplace : (3 * (y * s.width + x) + c).toNat = 3 * (y * s.width + x).toNat + c := by omega
  rw [Frame.rgb_eq hp, flatten_rows_frame hw hh, Except.ok.injEq] at hbytes
  refine ⟨clampByte (s.palette.level (s.isLit x y)), ?_, toNat_clampByte_of_isByte (hp.level _)⟩
  rw [← hbytes, hplace, getElem?_flatMap_replicate _ _ hc, getElem?_pixels h]
  rfl

/-- Two screens with the same sides and different levels have the same image just if their pictures
have the same rows. -/
theorem rgb_inj {t : Screen} (hp : s.palette.IsBytes)
    (hne : s.palette.background ≠ s.palette.foreground) (hw : 0 ≤ s.width) (hh : 0 ≤ s.height)
    (hwidth : t.width = s.width) (hheight : t.height = s.height)
    (hpalette : t.palette = s.palette) :
    s.frame.rgb = t.frame.rgb ↔ s.frame.rows = t.frame.rows := by
  rw [Frame.rgb_eq hp, Frame.rgb_eq (show t.palette.IsBytes from hpalette ▸ hp), Except.ok.injEq,
    flatten_rows_frame hw hh, flatten_rows_frame (by omega) (by omega),
    rows_frame_inj hw hh hwidth hheight]
  show (s.pixels.toList.flatMap fun lit => List.replicate 3 (clampByte (s.palette.level lit))) =
    (t.pixels.toList.flatMap fun lit => List.replicate 3 (clampByte (t.palette.level lit))) ↔ _
  rw [hpalette]
  exact flatMap_replicate_inj (hp.injective hne) (by decide)

/-- **The colour image is exact.** A screen with positive sides and a palette of bytes can be had,
and has an image of three bytes for every pixel after any strokes. The three bytes of a pixel,
counted row by row, are its colour, which is the foreground if it is lit and the background if not;
so if the two differ, the colour is the foreground exactly if the pixel is lit. The lit pixels are
counted. If the levels differ, two such pictures have the same image exactly if they have the same
pixels. -/
theorem rgb_exact {w h : Int} (hw : 0 < w) (hh : 0 < h) (wrap : Bool) {p : Palette}
    (hp : p.IsBytes) (strokes : List Stroke) :
    ∃ s bytes, painted w h wrap p strokes = .ok s ∧ s.frame.rgb = .ok bytes ∧
      (bytes.length : Int) = 3 * w * h ∧
      (∀ x y, 0 ≤ x ∧ x < w → 0 ≤ y ∧ y < h →
        ∃ lit color, s.pixel x y = .ok lit ∧ s.frame.color x y = .ok color ∧
          (∀ c : Nat, c < 3 → ∃ b : UInt8, bytes[(3 * (y * w + x) + c).toNat]? = some b ∧
            (b.toNat : Int) = color) ∧
          color = (if lit then p.foreground else p.background) ∧
          (p.background ≠ p.foreground → (color = p.foreground ↔ lit = true))) ∧
      s.frame.litCount = Set.ncard {q : Int × Int |
        (0 ≤ q.1 ∧ q.1 < w) ∧ (0 ≤ q.2 ∧ q.2 < h) ∧ s.pixel q.1 q.2 = .ok true} ∧
      (p.background ≠ p.foreground → ∀ wrap' strokes' t, painted w h wrap' p strokes' = .ok t →
        (s.frame.rgb = t.frame.rgb ↔ s.frame.rows = t.frame.rows)) := by
  obtain ⟨s, hs, rfl, rfl, rfl⟩ := painted_ok hw hh wrap p strokes
  refine ⟨s, _, hs, Frame.rgb_eq hp, ?_, ?_, ?_, ?_⟩
  · rw [length_of_rgb_frame (by omega) (by omega) (Frame.rgb_eq hp), Int.mul_assoc]
  · intro x y hx hy
    have hgrid : s.OnGrid x y := ⟨hx, hy⟩
    refine ⟨s.isLit x y, _, pixel_of_onGrid hgrid, color_frame hgrid, ?_, rfl, ?_⟩
    · intro c hc
      exact byte_of_rgb hp (by omega) (by omega) (Frame.rgb_eq hp) hgrid hc
    · intro hne
      cases s.isLit x y with
      | true => simp [Palette.level]
      | false => simp [Palette.level, hne]
  · rw [litCount_frame hw hh]
    simp only [OnGrid, and_assoc]
  · intro hne wrap' strokes' t ht
    obtain ⟨t', ht', hwidth, hheight, hpalette⟩ := painted_ok hw hh wrap' s.palette strokes'
    cases ht.symm.trans ht'
    exact rgb_inj hp hne (by omega) (by omega) hwidth hheight hpalette

/-- A screen that is three wide and two high. The second bit of the sprite at the right edge comes
in at the left one, in the fourth pixel of the image. -/
theorem rgb_exact_on_small_screen :
    let p : Palette := { background := 0xDD, foreground := 0x44 }
    let strokes : List Stroke := [.draw 0 0 [0xFF], .clear, .draw 2 1 [0xC0], .draw 1 0 [0x80]]
    (0 : Int) < 3 ∧ (0 : Int) < 2 ∧ p.IsBytes ∧
      ∃ s bytes, painted 3 2 true p strokes = .ok s ∧ s.frame.rgb = .ok bytes ∧
        (bytes.length : Int) = 3 * 3 * 2 ∧ s.pixel 0 1 = .ok true ∧ s.frame.color 0 1 = .ok 0x44 ∧
        ∃ b, bytes[11]? = some b ∧ (b.toNat : Int) = 0x44 := by
  intro p strokes
  have hp : p.IsBytes := ⟨by decide, by decide⟩
  obtain ⟨s, bytes, hs, hbytes, hlength, hpixels, _, _⟩ :=
    rgb_exact (by decide : (0 : Int) < 3) (by decide : (0 : Int) < 2) true hp strokes
  obtain ⟨lit, color, hlit, hcolor, himage, hlevel, _⟩ := hpixels 0 1 (by decide) (by decide)
  have hrun : ((painted 3 2 true p strokes).bind fun s => s.pixel 0 1).toOption = some true := by
    decide +kernel
  rw [hs, Except.bind, hlit] at hrun
  cases hrun
  subst hlevel
  exact ⟨by decide, by decide, hp, s, bytes, hs, hbytes, hlength, hlit, hcolor,
    himage 2 (by decide)⟩

/-- A screen whose levels are equal shows an unlit pixel in the level of the foreground. -/
theorem color_of_equal_levels :
    let p : Palette := { background := 5, foreground := 5 }
    p.IsBytes ∧ ∃ s, painted 1 1 false p [] = .ok s ∧
      ¬ (s.frame.color 0 0 = .ok p.foreground ↔ s.pixel 0 0 = .ok true) := by
  intro p
  refine ⟨⟨by decide, by decide⟩, _, rfl, ?_⟩
  intro hiff
  have hlit := hiff.1 rfl
  cases hlit

end Screen

end Chip8
