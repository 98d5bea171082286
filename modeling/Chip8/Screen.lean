import Chip8.Registers

set_option autoImplicit false

/-! # The screen

The screen is a grid of pixels that are lit or not, 64 wide and 32 high in a machine. The only way
to light a pixel is to draw a sprite: up to fifteen rows of eight pixels, the highest bit of a row
leftmost. A set bit of the sprite inverts the pixel it falls on, and the drawing *collides* if it
puts out a pixel that was lit at that moment.

A bit that falls beyond an edge is dropped, or comes in at the opposite edge if the screen wraps.
-/

namespace Chip8

/-- The width of the screen of a machine. -/
def screenWidth : Nat := 64

/-- The height of the screen of a machine. -/
def screenHeight : Nat := 32

/-- The greatest number of rows of a sprite. -/
def maxSpriteRows : Nat := 15

/-- The grey levels in which unlit and lit pixels are shown. -/
structure Palette where
  background : Int := 0xDD
  foreground : Int := 0x44
deriving DecidableEq, Repr

/-- The level of a lit or an unlit pixel. -/
def Palette.level (p : Palette) (lit : Bool) : Int := if lit then p.foreground else p.background

/-- A grid of pixels, row by row from the top, each row from the left. -/
structure Screen where
  width : Int
  height : Int
  wrap : Bool
  palette : Palette
  pixels : Array Bool
  size_eq : pixels.size = (width * height).toNat

namespace Screen

/-- An unlit screen. -/
def ofSize (width height : Int) (wrap : Bool) (palette : Palette) : Except Fault Screen :=
  if width * height < 0 then .error .negativePixelCount
  else .ok {
    width, height, wrap, palette
    pixels := Array.replicate (width * height).toNat false
    size_eq := by simp }

/-- The unlit screen of a machine. -/
def standard (wrap : Bool) (palette : Palette) : Screen where
  width := screenWidth
  height := screenHeight
  wrap := wrap
  palette := palette
  pixels := Array.replicate (screenWidth * screenHeight) false
  size_eq := by simp [screenWidth, screenHeight]

/-- Puts all pixels out. -/
def clear (s : Screen) : Screen :=
  { s with
    pixels := Array.replicate (s.width * s.height).toNat false
    size_eq := by simp }

/-- Whether the pixel is lit that stands `y * width + x` places behind the first one, or before
the end if that is negative. -/
def pixel (s : Screen) (x y : Int) : Except Fault Bool :=
  (indexFromEnd? s.pixels.size (y * s.width + x)).map fun k => s.pixels[k]

/-! ## Drawing -/

/-- The place of the pixel on which the point `(x, y)` falls, if it falls on one. -/
def place (s : Screen) (x y : Int) : Except Fault (Option (Fin s.pixels.size)) :=
  if s.wrap then
    if s.width = 0 ∨ s.height = 0 then .error .zeroSide
    else
      (indexFromEnd? s.pixels.size (y.fmod s.height * s.width + x.fmod s.width)).map some
  else if 0 ≤ x ∧ x < s.width ∧ 0 ≤ y ∧ y < s.height then
    (indexFromEnd? s.pixels.size (y * s.width + x)).map some
  else .ok none

/-- A screen in the course of a drawing, and whether the drawing has collided so far. -/
structure Drawing where
  screen : Screen
  collided : Bool

/-- One bit of a sprite and the point it falls on. -/
structure Dot where
  x : Int
  y : Int
  lit : Bool
deriving DecidableEq, Repr

/-- The bit of a row that is `k` places from the left one. -/
def bit (row : Int) (k : Nat) : Bool := row >>> (7 - k) % 2 == 1

/-- The dots of a sprite at `(x, y)`, row by row and each row from the left. -/
def dots (x y : Int) (rows : List Int) : List Dot :=
  rows.zipIdx.flatMap fun (row, j) => (List.range 8).map fun (k : Nat) => ⟨x + k, y + j, bit row k⟩

/-- Draws one dot. -/
def Drawing.plot (d : Drawing) (dot : Dot) : Except Fault Drawing :=
  match d with
  | ⟨s, collided⟩ =>
    match s.place dot.x dot.y with
    | .error e => .error e
    | .ok none => .ok ⟨s, collided⟩
    | .ok (some k) =>
      let old := s.pixels[k]
      .ok ⟨{ s with
              pixels := s.pixels.set k.val (old ^^ dot.lit) k.isLt
              size_eq := by simpa using s.size_eq },
        collided || (old && dot.lit)⟩

/-- Draws dots one after the other. -/
def Drawing.plotAll (d : Drawing) : List Dot → Except Fault Drawing
  | [] => .ok d
  | dot :: rest =>
    match d.plot dot with
    | .error e => .error e
    | .ok next => next.plotAll rest

/-- Draws a sprite with its left upper corner at `(x, y)`, and says whether it collided. -/
def draw (s : Screen) (x y : Int) (rows : List Int) : Except Fault Drawing :=
  if maxSpriteRows < rows.length then .error (.spriteTooTall rows.length)
  else Drawing.plotAll ⟨s, false⟩ (dots x y rows)

theorem draw_eq_error_of_tall {s : Screen} {x y : Int} {rows : List Int}
    (h : maxSpriteRows < rows.length) : s.draw x y rows = .error (.spriteTooTall rows.length) := by
  simp [draw, h]

end Screen

end Chip8
