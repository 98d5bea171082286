import Chip8.Registers

set_option autoImplicit false

/-! # Instructions

The 34 instructions of the machine, and the words that are none. In the names of the words, `x` and
`y` are register numbers, `n` is a number of four bits, `kk` a byte and `nnn` an address.
-/

namespace Chip8

/-- A decoded instruction word. -/
inductive Instruction where
  /-- `00E0`: puts all pixels out. -/
  | clear
  /-- `00EE`: returns to the address on top of the stack. -/
  | ret
  /-- `1nnn`: continues at `nnn`. -/
  | jump (nnn : Fin 4096)
  /-- `2nnn`: continues at `nnn` and remembers where to return. -/
  | call (nnn : Fin 4096)
  /-- `3xkk`: skips a word if `Vx` is `kk`. -/
  | skipIfByte (x : Reg) (kk : UInt8)
  /-- `4xkk`: skips a word unless `Vx` is `kk`. -/
  | skipUnlessByte (x : Reg) (kk : UInt8)
  /-- `5xy0`: skips a word if `Vx` and `Vy` are equal. -/
  | skipIfEqual (x y : Reg)
  /-- `6xkk`: sets `Vx` to `kk`. -/
  | loadByte (x : Reg) (kk : UInt8)
  /-- `7xkk`: adds `kk` to `Vx`, without a flag. -/
  | addByte (x : Reg) (kk : UInt8)
  /-- `8xy0`: sets `Vx` to `Vy`. -/
  | copy (x y : Reg)
  /-- `8xy1`: bitwise or. -/
  | or (x y : Reg)
  /-- `8xy2`: bitwise and. -/
  | and (x y : Reg)
  /-- `8xy3`: bitwise exclusive or. -/
  | xor (x y : Reg)
  /-- `8xy4`: adds `Vy` to `Vx`; the flag is the carry. -/
  | add (x y : Reg)
  /-- `8xy5`: subtracts `Vy` from `Vx`; the flag is set if nothing was borrowed. -/
  | sub (x y : Reg)
  /-- `8xy6`: sets `Vx` to `Vy` shifted right by one; the flag is the bit shifted out. -/
  | shiftRight (x y : Reg)
  /-- `8xy7`: sets `Vx` to `Vy` less `Vx`; the flag is set if nothing was borrowed. -/
  | subFrom (x y : Reg)
  /-- `8xyE`: sets `Vx` to `Vy` shifted left by one; the flag is the bit shifted out. -/
  | shiftLeft (x y : Reg)
  /-- `9xy0`: skips a word unless `Vx` and `Vy` are equal. -/
  | skipUnlessEqual (x y : Reg)
  /-- `Annn`: sets `I` to `nnn`. -/
  | loadIndex (nnn : Fin 4096)
  /-- `Bnnn`: continues at `nnn` plus `V0`. -/
  | jumpOffset (nnn : Fin 4096)
  /-- `Cxkk`: sets `Vx` to a random byte, masked with `kk`. -/
  | random (x : Reg) (kk : UInt8)
  /-- `Dxyn`: draws the sprite of `n` rows at `I` at the point `Vx`, `Vy`; the flag is the
  collision. -/
  | draw (x y : Reg) (n : Fin 16)
  /-- `Ex9E`: skips a word if the key `Vx` is down. -/
  | skipIfKey (x : Reg)
  /-- `ExA1`: skips a word unless the key `Vx` is down. -/
  | skipUnlessKey (x : Reg)
  /-- `Fx07`: sets `Vx` to the delay timer. -/
  | readDelay (x : Reg)
  /-- `Fx0A`: waits for a key and sets `Vx` to it. -/
  | awaitKey (x : Reg)
  /-- `Fx15`: sets the delay timer to `Vx`. -/
  | setDelay (x : Reg)
  /-- `Fx18`: sets the sound timer to `Vx`. -/
  | setSound (x : Reg)
  /-- `Fx1E`: adds `Vx` to `I`. -/
  | addIndex (x : Reg)
  /-- `Fx29`: sets `I` to the glyph of the digit `Vx`. -/
  | loadGlyph (x : Reg)
  /-- `Fx33`: stores the three decimal digits of `Vx` at `I`. -/
  | storeDecimal (x : Reg)
  /-- `Fx55`: stores `V0` to `Vx` at `I`, and moves `I` behind them. -/
  | store (x : Reg)
  /-- `Fx65`: loads `V0` to `Vx` from `I`, and moves `I` behind them. -/
  | load (x : Reg)
  /-- A word that is no instruction. -/
  | unknown (word : Int)
deriving DecidableEq, Repr

end Chip8
