import Chip8.Bindings
import Chip8.CallStack
import Chip8.Screen

set_option autoImplicit false

/-! # The configuration of a machine and its window -/

namespace Chip8

/-- What can be set. -/
structure Config where
  /-- Instructions in a second. -/
  cpuHz : Nat := 700
  /-- Ticks of the timers in a second. -/
  timerHz : Nat := 60
  /-- Whether sprites wrap around the edges of the screen. -/
  spriteWrap : Bool := false
  /-- The number of return addresses that the stack holds. -/
  stackDepth : Nat := defaultStackDepth
  /-- The seed of the random bytes, unless they are to differ from run to run. -/
  randomSeed : Option Int := none
  /-- The width of a pixel in the window. -/
  displayScale : Nat := 10
  palette : Palette := {}
  keyMap : Bindings Key := .usual
deriving DecidableEq

end Chip8
