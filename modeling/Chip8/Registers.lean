import Chip8.Memory

set_option autoImplicit false

/-! # Registers

Sixteen byte registers `V0` to `VF`, the index register `I`, the program counter and the stack
pointer. `VF` receives the carry, borrow, shift and collision flags. The setters of `I` and of the
program counter keep 16 and 12 bits; in between the program counter may stand behind the last
address, which the processor notices after an instruction.
-/

namespace Chip8

/-- The number of an 8-bit register. -/
abbrev Reg := Fin 16

/-- The flag register. -/
def flag : Reg := Fin.last 15

/-- The register that an offset jump adds to its target. -/
def jumpBase : Reg := ⟨0, by decide⟩

/-- The number of addresses, as the modulus of a jump. -/
def addressSpace : Int := 0x1000

/-- The register file. -/
structure Registers where
  v : Vector UInt8 16 := Vector.replicate 16 0
  i : Int := 0
  pc : Int := programStart
  sp : Int := 0
deriving DecidableEq

/-- The entry of a table of `size` entries that an index means, if there is one: negative indexes
count from the end. -/
def indexFromEnd? (size : Nat) (index : Int) : Except Fault (Fin size) :=
  if h : 0 ≤ index ∧ index < size then .ok ⟨index.toNat, by omega⟩
  else if h : -size ≤ index ∧ index < 0 then .ok ⟨(size + index).toNat, by omega⟩
  else .error .indexOutOfRange

/-- Whether `n` is a byte. -/
def isByte (n : Int) : Bool := 0 ≤ n && n ≤ 255

namespace Registers

/-- A register file with the given values: sixteen bytes, and whatever `I`, the program counter
and the stack pointer are to be. -/
def ofValues (v : List Int) (i pc sp : Int) : Except Fault Registers :=
  if h : v.length = 16 then
    if v.all isByte then .ok ⟨⟨(v.map clampByte).toArray, by simpa using h⟩, i, pc, sp⟩
    else .error .registerNotByte
  else .error .wrongRegisterCount

/-- The value of `Vx`. -/
def get (r : Registers) (x : Reg) : UInt8 := r.v[x]

/-- Sets `Vx`. -/
def set (r : Registers) (x : Reg) (b : UInt8) : Registers :=
  { r with v := r.v.set x.val b x.isLt }

/-- Sets the register that an index means to the low 8 bits of a value. -/
def setAt (r : Registers) (index value : Int) : Except Fault Registers :=
  (indexFromEnd? 16 index).map fun x => r.set x (UInt8.ofNat (value % 256).toNat)

/-- Sets `I` to the low 16 bits of a value. -/
def setI (r : Registers) (n : Int) : Registers := { r with i := n % 0x10000 }

/-- Sets the program counter to the low 12 bits of a value. -/
def jump (r : Registers) (n : Int) : Registers := { r with pc := n % addressSpace }

/-- Moves the program counter behind the next instruction word. -/
def skip (r : Registers) : Registers := { r with pc := r.pc + 2 }

@[simp] theorem get_set (r : Registers) (x y : Reg) (b : UInt8) :
    (r.set x b).get y = if x = y then b else r.get y := by
  simp only [get, set, Fin.getElem_fin, Vector.getElem_set, Fin.ext_iff]

theorem get_set_self (r : Registers) (x : Reg) (b : UInt8) : (r.set x b).get x = b := by simp

theorem get_set_ne (r : Registers) {x y : Reg} (b : UInt8) (h : x ≠ y) :
    (r.set x b).get y = r.get y := by simp [h]

/-- Two register files that agree in every register are equal. -/
theorem ext_get {r s : Registers} (hv : ∀ x, r.get x = s.get x) (hi : r.i = s.i)
    (hpc : r.pc = s.pc) (hsp : r.sp = s.sp) : r = s := by
  cases r; cases s
  simp only [mk.injEq]
  exact ⟨Vector.ext fun k hk => hv ⟨k, hk⟩, hi, hpc, hsp⟩

end Registers

end Chip8
