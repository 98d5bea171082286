import Chip8.Config
import Chip8.Machine

set_option autoImplicit false

/-! # Building a machine

A configuration describes a machine up to its clock and its source of random bytes. On a clock that
counts seconds in floating point, the period of the timers is one divided by their rate, and a rate
beyond the range of such numbers cannot be had.
-/

namespace Chip8

namespace Config

/-- The registers and devices of a machine at its start. -/
def initialState (c : Config) (random : Twister) : State where
  stack := { depth := c.stackDepth }
  screen := .standard c.spriteWrap c.palette
  random := random

/-- The machine that a configuration describes, with the period of its timers and the reading of
the clock at its start. -/
def machine {τ : Type} (c : Config) (random : Twister) (period now : τ) : Machine τ where
  processor := { state := c.initialState random, period, lastTick := now }

/-- The period of the timers in seconds. -/
def period? (c : Config) : Option Float :=
  (Binary.nearestQuotient? c.timerHz 1).map fun rate => 1.0 / rate.toFloat

/-- The machine that a configuration describes, on a clock that counts seconds. The seed given here
counts if the configuration has none. -/
def build (c : Config) (seed : Int) (now : Float) : Except Fault (Machine Float) :=
  match c.period? with
  | none => .error .rateTooHigh
  | some period => .ok (c.machine (.ofSeed (c.randomSeed.getD seed)) period now)

end Config

end Chip8
