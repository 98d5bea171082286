import Chip8.Instruction

set_option autoImplicit false

/-! # Decoding

An instruction word is a number of 16 bits. Its highest digit in base sixteen selects the kind of
instruction; for the kinds 0, 5, 8, 9, E and F some of the other digits select among several. The
word with the operands masked out is its *pattern*.

Decoding takes any whole number. A number outside the range of 16 bits has only its fourth digit as
a pattern, so that it decodes as the first instruction of that kind, if there is one.
-/

namespace Chip8

/-- An instruction word, high byte first in memory. -/
abbrev Word := Int

namespace Word

/-- The word with the given bytes. -/
def ofBytes (high low : UInt8) : Word := high.toNat * 256 + low.toNat

/-- The digit of the word in base sixteen that is `k` places from the lowest one. -/
def digit (w : Word) (k : Nat) : Fin 16 := ⟨(w >>> (4 * k) % 16).toNat, by omega⟩

/-- The first register operand. -/
def x (w : Word) : Reg := w.digit 2

/-- The second register operand. -/
def y (w : Word) : Reg := w.digit 1

/-- The operand of four bits. -/
def n (w : Word) : Fin 16 := w.digit 0

/-- The operand of a byte. -/
def kk (w : Word) : UInt8 := UInt8.ofNat (w % 256).toNat

/-- The address operand. -/
def nnn (w : Word) : Fin 4096 := ⟨(w % 4096).toNat, by omega⟩

/-- The digits that select the instruction, below the highest one. -/
def selector (w : Word) : Nat :=
  let kind := w / 0x1000
  if kind = 0 then (w % 0x1000).toNat
  else if kind = 5 ∨ kind = 8 ∨ kind = 9 then (w % 0x10).toNat
  else if kind = 0xE ∨ kind = 0xF then (w % 0x100).toNat
  else 0

/-- The word with its operands masked out. -/
def pattern (w : Word) : Nat := (w.digit 3).val * 0x1000 + w.selector

end Word

namespace Instruction

/-- The instruction of a word. -/
def decode (w : Word) : Instruction :=
  match (w.digit 3).val, w.selector with
  | 0x0, 0x0E0 => clear
  | 0x0, 0x0EE => ret
  | 0x1, _ => jump w.nnn
  | 0x2, _ => call w.nnn
  | 0x3, _ => skipIfByte w.x w.kk
  | 0x4, _ => skipUnlessByte w.x w.kk
  | 0x5, 0x0 => skipIfEqual w.x w.y
  | 0x6, _ => loadByte w.x w.kk
  | 0x7, _ => addByte w.x w.kk
  | 0x8, 0x0 => copy w.x w.y
  | 0x8, 0x1 => or w.x w.y
  | 0x8, 0x2 => and w.x w.y
  | 0x8, 0x3 => xor w.x w.y
  | 0x8, 0x4 => add w.x w.y
  | 0x8, 0x5 => sub w.x w.y
  | 0x8, 0x6 => shiftRight w.x w.y
  | 0x8, 0x7 => subFrom w.x w.y
  | 0x8, 0xE => shiftLeft w.x w.y
  | 0x9, 0x0 => skipUnlessEqual w.x w.y
  | 0xA, _ => loadIndex w.nnn
  | 0xB, _ => jumpOffset w.nnn
  | 0xC, _ => random w.x w.kk
  | 0xD, _ => draw w.x w.y w.n
  | 0xE, 0x9E => skipIfKey w.x
  | 0xE, 0xA1 => skipUnlessKey w.x
  | 0xF, 0x07 => readDelay w.x
  | 0xF, 0x0A => awaitKey w.x
  | 0xF, 0x15 => setDelay w.x
  | 0xF, 0x18 => setSound w.x
  | 0xF, 0x1E => addIndex w.x
  | 0xF, 0x29 => loadGlyph w.x
  | 0xF, 0x33 => storeDecimal w.x
  | 0xF, 0x55 => store w.x
  | 0xF, 0x65 => load w.x
  | _, _ => unknown w

/-- Every instruction word is two bytes long. -/
def size : Int := 2

example : decode 0x8126 = shiftRight 1 2 := by decide +kernel
example : decode 0x5121 = unknown 0x5121 := by decide +kernel
example : decode (-1) = unknown (-1) := by decide +kernel
example : decode 0x15121 = skipIfEqual 1 2 := by decide +kernel

end Instruction

end Chip8
