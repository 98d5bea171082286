import Chip8.Screen

set_option autoImplicit false

/-! # Frames

A frame is a picture of the screen at one moment, for the host to show: the rows of pixels and the
two grey levels. Its colour image has three equal bytes for every pixel, row by row.
-/

namespace Chip8

/-- A picture of the screen. -/
structure Frame where
  width : Int
  height : Int
  palette : Palette
  /-- The rows from the top, each from the left; true is lit. -/
  rows : List (List Bool)
deriving DecidableEq

/-- The picture of the screen as it is. -/
def Screen.frame (s : Screen) : Frame where
  width := s.width
  height := s.height
  palette := s.palette
  rows := (List.range s.height.toNat).map fun y =>
    (List.range s.width.toNat).map fun x => s.pixels.getD (y * s.width.toNat + x) false

/-- Both levels of the palette are bytes. -/
def Palette.IsBytes (p : Palette) : Prop := isByte p.background = true ∧ isByte p.foreground = true

theorem Palette.IsBytes.level {p : Palette} (h : p.IsBytes) (lit : Bool) :
    isByte (p.level lit) = true := by
  cases lit
  · exact h.1
  · exact h.2

namespace Frame

/-- Whether the pixel in row `y` and column `x` is lit; negative numbers count from the end. -/
def isLit (f : Frame) (x y : Int) : Except Fault Bool :=
  match indexFromEnd? f.rows.length y with
  | .error e => .error e
  | .ok j => (indexFromEnd? f.rows[j].length x).map fun k => f.rows[j][k]

/-- The level of the pixel in row `y` and column `x`. -/
def color (f : Frame) (x y : Int) : Except Fault Int := (f.isLit x y).map f.palette.level

/-- The number of lit pixels. -/
def litCount (f : Frame) : Nat := f.rows.flatten.count true

/-- The colour image: red, green and blue of every pixel. A pixel whose level is no byte has no
colour. -/
def rgb (f : Frame) : Except Fault (List UInt8) :=
  let levels := f.rows.flatten.map f.palette.level
  if levels.all isByte then
    .ok (levels.flatMap fun level => List.replicate 3 (clampByte level))
  else .error .notByte

/-- A frame whose levels are bytes has a colour image. -/
theorem rgb_eq {f : Frame} (h : f.palette.IsBytes) :
    f.rgb = .ok (f.rows.flatten.flatMap fun lit =>
      List.replicate 3 (clampByte (f.palette.level lit))) := by
  have hall : (f.rows.flatten.map f.palette.level).all isByte = true := by
    rw [List.all_map, List.all_eq_true]
    intro lit _
    exact h.level lit
  simp only [rgb, hall, if_true, List.flatMap_map]

/-- A colour image has three bytes for every pixel. -/
theorem length_of_rgb {f : Frame} {bytes : List UInt8} (h : f.rgb = .ok bytes) :
    bytes.length = 3 * f.rows.flatten.length := by
  have count (levels : List Int) :
      (levels.flatMap fun level => List.replicate 3 (clampByte level)).length
        = 3 * levels.length := by
    induction levels with
    | nil => rfl
    | cons level rest ih =>
      simp only [List.flatMap_cons, List.length_append, List.length_replicate, ih,
        List.length_cons]
      omega
  unfold rgb at h
  simp only at h
  split at h
  · simp only [Except.ok.injEq] at h
    rw [← h, count, List.length_map]
  · simp at h

end Frame

end Chip8
