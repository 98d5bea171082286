import Chip8.CallStack
import Chip8.Keypad
import Chip8.Random
import Chip8.Screen
import Chip8.Timer

set_option autoImplicit false

/-! # The state that instructions work on

The registers and the devices: memory, call stack, screen, keypad, the two timers and the source
of random bytes.
-/

namespace Chip8

/-- Registers and devices. -/
structure State where
  registers : Registers := {}
  memory : Memory := .initial
  stack : CallStack
  screen : Screen
  keypad : Keypad := {}
  delay : Timer := {}
  sound : Timer := {}
  random : Twister

namespace State

/-- The state after a reset: all is as at the start but for the source of random bytes, which goes
on where it was. The depth of the stack and the kind of screen are settings, and stay too. -/
def reset (s : State) : State where
  stack := s.stack.clear
  screen := s.screen.clear
  random := s.random

/-- The program counter. -/
def pc (s : State) : Int := s.registers.pc

/-- Applies a change to the registers. -/
def mapRegisters (s : State) (f : Registers → Registers) : State :=
  { s with registers := f s.registers }

/-- The value of `Vx`. -/
def get (s : State) (x : Reg) : UInt8 := s.registers.get x

/-- Both timers count down by one. -/
def tickTimers (s : State) : State := { s with delay := s.delay.tick, sound := s.sound.tick }

end State

end Chip8
