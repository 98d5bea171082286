import Chip8.Machine

set_option autoImplicit false

/-! # The register dump

A dump shows the registers, the timers and the stack of a machine at one moment, and the word at its
program counter. The dump puts this word together by itself, not by the fetch of a step.
-/

namespace Chip8

/-- What a dump shows. -/
structure Dump where
  pc : Int
  sp : Int
  i : Int
  v : List Int
  /-- The word at the program counter, if it lies in memory as a whole. -/
  word : Option Word
  delay : Int
  sound : Int
  /-- The name of the processor's mode. -/
  mode : String
  /-- The return addresses, the oldest one first. -/
  stack : List Int
deriving DecidableEq, Repr

namespace Dump

/-- The name of the 8-bit register with a number. -/
def registerName (n : Nat) : String := "V" ++ Radix.upper 1 n

/-- The value of an 8-bit register. -/
def registerText (value : Int) : String := "0x" ++ Radix.upper 2 value

/-- The word at the program counter. -/
def wordText (d : Dump) : String :=
  match d.word with
  | none => "----"
  | some w => Radix.upper 4 w

/-- The program counter. -/
def pcText (d : Dump) : String := "0x" ++ Radix.upper 3 d.pc

/-- The stack pointer. -/
def spText (d : Dump) : String := "0x" ++ Radix.upper 2 d.sp

/-- The index register. -/
def iText (d : Dump) : String := "0x" ++ Radix.upper 4 d.i

/-- The 8-bit registers, a line each. -/
def registerLines (d : Dump) : List String :=
  d.v.zipIdx.map fun (value, n) => registerName n ++ " : " ++ registerText value

/-- The return addresses divided by spaces; two dashes if there are none. -/
def stackText (d : Dump) : String :=
  if d.stack.isEmpty then "--" else " ".intercalate (d.stack.map (Radix.upper 3))

end Dump

/-- The word at an address, put together from its two bytes; there is none if one of them lies
outside the address space. -/
def Memory.wordAt? (m : Memory) (a : Int) : Option Word :=
  match m.read a, m.read (a + 1) with
  | .ok high, .ok low => some ((high.toNat <<< 8 ||| low.toNat : Nat) : Int)
  | _, _ => none

/-- The dump of a machine. -/
def Machine.dump {τ : Type} (m : Machine τ) : Dump where
  pc := m.state.pc
  sp := m.state.registers.sp
  i := m.state.registers.i
  v := m.state.registers.v.toList.map fun b => (b.toNat : Int)
  word := m.state.memory.wordAt? m.state.pc
  delay := m.state.delay.value.toNat
  sound := m.state.sound.value.toNat
  mode := m.processor.mode.name
  stack := m.state.stack.toList

end Chip8
