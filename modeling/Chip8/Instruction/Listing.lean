import Chip8.Instruction.Decode

set_option autoImplicit false

/-! # Listing

An instruction is written as a mnemonic and its operands: registers as `V0` to `VF`, bytes as `#`
and two digits, addresses as `$` and three digits, all in base sixteen with capital letters.
-/

namespace Chip8.Instruction

/-- A register operand. -/
def register (x : Reg) : String := "V" ++ Radix.upper 1 x.val

/-- A byte operand. -/
def byte (kk : UInt8) : String := "#" ++ Radix.upper 2 kk.toNat

/-- An address operand. -/
def address (nnn : Fin 4096) : String := "$" ++ Radix.upper 3 nnn.val

/-- The name of an instruction. -/
def mnemonic : Instruction → String
  | clear => "CLS"
  | ret => "RET"
  | jump _ => "JP"
  | call _ => "CALL"
  | skipIfByte _ _ => "SE"
  | skipUnlessByte _ _ => "SNE"
  | skipIfEqual _ _ => "SE"
  | loadByte _ _ => "LD"
  | addByte _ _ => "ADD"
  | copy _ _ => "LD"
  | or _ _ => "OR"
  | and _ _ => "AND"
  | xor _ _ => "XOR"
  | add _ _ => "ADD"
  | sub _ _ => "SUB"
  | shiftRight _ _ => "SHR"
  | subFrom _ _ => "SUBN"
  | shiftLeft _ _ => "SHL"
  | skipUnlessEqual _ _ => "SNE"
  | loadIndex _ => "LD"
  | jumpOffset _ => "JP"
  | random _ _ => "RND"
  | draw _ _ _ => "DRW"
  | skipIfKey _ => "SKP"
  | skipUnlessKey _ => "SKNP"
  | readDelay _ => "LD"
  | awaitKey _ => "LD"
  | setDelay _ => "LD"
  | setSound _ => "LD"
  | addIndex _ => "ADD"
  | loadGlyph _ => "LD"
  | storeDecimal _ => "LD"
  | store _ => "LD"
  | load _ => "LD"
  | unknown _ => "UNKNOWN"

/-- The operands of an instruction. -/
def operands : Instruction → List String
  | clear => []
  | ret => []
  | jump nnn => [address nnn]
  | call nnn => [address nnn]
  | skipIfByte x kk => [register x, byte kk]
  | skipUnlessByte x kk => [register x, byte kk]
  | skipIfEqual x y => [register x, register y]
  | loadByte x kk => [register x, byte kk]
  | addByte x kk => [register x, byte kk]
  | copy x y => [register x, register y]
  | or x y => [register x, register y]
  | and x y => [register x, register y]
  | xor x y => [register x, register y]
  | add x y => [register x, register y]
  | sub x y => [register x, register y]
  | shiftRight x y => [register x, register y]
  | subFrom x y => [register x, register y]
  | shiftLeft x y => [register x, register y]
  | skipUnlessEqual x y => [register x, register y]
  | loadIndex nnn => ["I", address nnn]
  | jumpOffset nnn => ["V0", address nnn]
  | random x kk => [register x, byte kk]
  | draw x y n => [register x, register y, Radix.upper 1 n.val]
  | skipIfKey x => [register x]
  | skipUnlessKey x => [register x]
  | readDelay x => [register x, "DT"]
  | awaitKey x => [register x, "K"]
  | setDelay x => ["DT", register x]
  | setSound x => ["ST", register x]
  | addIndex x => ["I", register x]
  | loadGlyph x => ["F", register x]
  | storeDecimal x => ["B", register x]
  | store x => ["[I]", register x]
  | load x => [register x, "[I]"]
  | unknown word => ["#" ++ Radix.upper 4 word]

/-- The line of a listing: the mnemonic, and after a space the operands divided by commas. -/
def text (i : Instruction) : String :=
  if i.operands.isEmpty then i.mnemonic else i.mnemonic ++ " " ++ ", ".intercalate i.operands

example : text (decode 0xDABC) = "DRW VA, VB, C" := by decide +kernel
example : text (decode 0x00E0) = "CLS" := by decide +kernel
example : text (decode 0x5001) = "UNKNOWN #5001" := by decide +kernel

end Chip8.Instruction
