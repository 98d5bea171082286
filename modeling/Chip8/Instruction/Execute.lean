import Chip8.Instruction.Decode
import Chip8.State

set_option autoImplicit false

/-! # Executing an instruction

When an instruction is executed the program counter already stands behind it. An instruction that
fails changes nothing.

All arithmetic of the 8-bit registers is modulo 256. A flag is written after the result, so that
an instruction on `VF` leaves the flag there.
-/

namespace Chip8

namespace Registers

/-- Sets `Vx`, and then the flag register to one or zero. -/
def setWithFlag (r : Registers) (x : Reg) (b : UInt8) (f : Bool) : Registers :=
  (r.set x b).set flag (if f then 1 else 0)

/-- Moves the program counter behind the next word if `c` holds. -/
def skipIf (r : Registers) (c : Bool) : Registers := if c then r.skip else r

/-- The values of `V0` to `Vx`. -/
def upTo (r : Registers) (x : Reg) : List UInt8 := r.v.toList.take (x.val + 1)

/-- Sets the registers from number `k` on to the given values. -/
def setFrom (r : Registers) (k : Nat) : List UInt8 → Registers
  | [] => r
  | b :: rest => setFrom { r with v := r.v.setIfInBounds k b } (k + 1) rest

end Registers

/-- The key that the low four bits of a byte name. -/
def Key.ofByte (b : UInt8) : Key := ⟨b.toNat % 16, Nat.mod_lt _ (by omega)⟩

/-- The hundreds, tens and ones of a byte. -/
def decimalDigits (b : UInt8) : List Int := [(b / 100).toNat, (b / 10 % 10).toNat, (b % 10).toNat]

namespace Instruction

/-- The state after an instruction. -/
def execute (i : Instruction) (s : State) : Except Fault State :=
  match i with
  | clear => .ok { s with screen := s.screen.clear }
  | ret =>
    .ok { s with
      stack := s.stack.pop
      registers := { s.registers with pc := s.stack.top, sp := s.stack.pop.size } }
  | jump nnn => .ok (s.mapRegisters (·.jump nnn.val))
  | call nnn =>
    (s.stack.push s.pc).map fun stack =>
      { s with stack, registers := { s.registers with sp := stack.size }.jump nnn.val }
  | skipIfByte x kk => .ok (s.mapRegisters (·.skipIf (s.get x == kk)))
  | skipUnlessByte x kk => .ok (s.mapRegisters (·.skipIf (s.get x != kk)))
  | skipIfEqual x y => .ok (s.mapRegisters (·.skipIf (s.get x == s.get y)))
  | loadByte x kk => .ok (s.mapRegisters (·.set x kk))
  | addByte x kk => .ok (s.mapRegisters (·.set x (s.get x + kk)))
  | copy x y => .ok (s.mapRegisters (·.set x (s.get y)))
  | or x y => .ok (s.mapRegisters (·.set x (s.get x ||| s.get y)))
  | and x y => .ok (s.mapRegisters (·.set x (s.get x &&& s.get y)))
  | xor x y => .ok (s.mapRegisters (·.set x (s.get x ^^^ s.get y)))
  | add x y =>
    let carry : Bool := 255 < (s.get x).toNat + (s.get y).toNat
    .ok (s.mapRegisters (·.setWithFlag x (s.get x + s.get y) carry))
  | sub x y =>
    let noBorrow : Bool := s.get y ≤ s.get x
    .ok (s.mapRegisters (·.setWithFlag x (s.get x - s.get y) noBorrow))
  | shiftRight x y => .ok (s.mapRegisters (·.setWithFlag x (s.get y >>> 1) (s.get y % 2 == 1)))
  | subFrom x y =>
    let noBorrow : Bool := s.get x ≤ s.get y
    .ok (s.mapRegisters (·.setWithFlag x (s.get y - s.get x) noBorrow))
  | shiftLeft x y => .ok (s.mapRegisters (·.setWithFlag x (s.get y <<< 1) (s.get y / 128 == 1)))
  | skipUnlessEqual x y => .ok (s.mapRegisters (·.skipIf (s.get x != s.get y)))
  | loadIndex nnn => .ok (s.mapRegisters (·.setI nnn.val))
  | jumpOffset nnn => .ok (s.mapRegisters (·.jump ((s.get jumpBase).toNat + nnn.val)))
  | random x kk =>
    let (b, rest) := s.random.byte
    .ok { s with random := rest, registers := s.registers.set x (b &&& kk) }
  | draw x y n =>
    match s.memory.block s.registers.i n.val with
    | .error e => .error e
    | .ok rows =>
      (s.screen.draw (s.get x).toNat (s.get y).toNat (rows.map fun b => (b.toNat : Int))).map
        fun d => { s with
          screen := d.screen
          registers := s.registers.set flag (if d.collided then 1 else 0) }
  | skipIfKey x => .ok (s.mapRegisters (·.skipIf (s.keypad.isDown (Key.ofByte (s.get x)))))
  | skipUnlessKey x => .ok (s.mapRegisters (·.skipIf (!s.keypad.isDown (Key.ofByte (s.get x)))))
  | readDelay x => .ok (s.mapRegisters (·.set x s.delay.value))
  | awaitKey _ =>
    .ok { s with keypad := s.keypad.await, registers := s.registers.jump (s.pc - size) }
  | setDelay x => .ok { s with delay := s.delay.set (s.get x).toNat }
  | setSound x => .ok { s with sound := s.sound.set (s.get x).toNat }
  | addIndex x => .ok (s.mapRegisters (·.setI (s.registers.i + (s.get x).toNat)))
  | loadGlyph x => .ok (s.mapRegisters (·.setI (fontAddress + (s.get x).toNat * glyphSize)))
  | storeDecimal x =>
    (s.memory.load s.registers.i (decimalDigits (s.get x))).map fun memory => { s with memory }
  | store x =>
    (s.memory.load s.registers.i ((s.registers.upTo x).map fun b => (b.toNat : Int))).map
      fun memory => { s with memory, registers := s.registers.setI (s.registers.i + x.val + 1) }
  | load x =>
    (s.memory.block s.registers.i (x.val + 1)).map fun bytes =>
      { s with registers := (s.registers.setFrom 0 bytes).setI (s.registers.i + x.val + 1) }
  | unknown _ => .ok s

end Instruction

end Chip8
