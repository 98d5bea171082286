import Chip8.Screen.Frame

set_option autoImplicit false

/-! # The screen panel

The panel shows the last frame that it was given, with every pixel as a square. It turns a frame
into a colour image when it gets it, and asks to be painted. A frame without a colour image is kept,
but the image shown stays the one before.
-/

namespace Chip8

/-- A colour image: the bytes of its rows, three for every pixel. -/
structure Bitmap where
  width : Int
  height : Int
  bytes : List UInt8

/-- The number of bytes in a row. -/
def Bitmap.stride (b : Bitmap) : Int := 3 * b.width

/-- The colour image of a frame. -/
def Frame.bitmap (f : Frame) : Except Fault Bitmap :=
  f.rgb.map fun bytes => { width := f.width, height := f.height, bytes }

/-- One act of painting. -/
inductive PaintCall where
  /-- Fills a rectangle of the given size with one grey level. -/
  | fill (width height : Int) (level : Nat)
  /-- Turns the smoothing of scaled images on or off. -/
  | smoothing (on : Bool)
  /-- Draws an image of a size of its own into a rectangle of the given size. -/
  | image (width height imageWidth imageHeight : Int)
  /-- Ends the painting. -/
  | done
deriving DecidableEq, Repr

/-- The part of the window that shows the screen. -/
structure ScreenPanel where
  /-- The width of a pixel. -/
  scale : Int
  frame : Option Frame := none
  bitmap : Option Bitmap := none
  /-- How often painting was asked for. -/
  requests : Nat := 0

namespace ScreenPanel

/-- The width of the panel. -/
def width (p : ScreenPanel) : Int := screenWidth * p.scale

/-- The height of the panel. -/
def height (p : ScreenPanel) : Int := screenHeight * p.scale

/-- Shows a frame. -/
def update (p : ScreenPanel) (f : Frame) : Except Fault Unit × ScreenPanel :=
  match f.bitmap with
  | .error fault => (.error fault, { p with frame := some f })
  | .ok bitmap =>
    (.ok (), { p with frame := some f, bitmap := some bitmap, requests := p.requests + 1 })

/-- How the panel is painted: an even background until there is an image, and then the image,
scaled without smoothing. -/
def paint (p : ScreenPanel) : List PaintCall :=
  match p.bitmap with
  | none => [.fill p.width p.height 0xDD, .done]
  | some b => [.smoothing false, .image p.width p.height b.width b.height, .done]

end ScreenPanel

end Chip8
