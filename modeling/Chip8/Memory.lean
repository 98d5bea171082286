import Chip8.Fault

set_option autoImplicit false

/-! # Memory

The address space is 4096 bytes, `0x000` to `0xFFF`. After a reset the glyphs of the sixteen
hexadecimal digits lie at `0x000`, five bytes each, and all else is zero. Programs are put at
`0x200`.

    0x000      0x050      0x200                   0xFFF
    | font     | reserved | program and data      |

Addresses are whole numbers, and an access to one outside the space is a fault. A value that is
no byte is clamped to the nearest one when it is written. A block is written as a whole or not at
all.
-/

namespace Chip8

/-- The number of bytes in the address space. -/
def memorySize : Nat := 0x1000

/-- Where the glyphs of the digits begin. -/
def fontAddress : Nat := 0x000

/-- The number of bytes in a glyph. -/
def glyphSize : Nat := 5

/-- Where programs begin. -/
def programStart : Nat := 0x200

/-- The longest program that fits behind `programStart`. -/
def maxImageSize : Nat := memorySize - programStart

/-- The glyphs of the digits 0 to F; a row of four pixels is the high half of a byte. -/
def font : List UInt8 := [
  0xF0, 0x90, 0x90, 0x90, 0xF0,
  0x20, 0x60, 0x20, 0x20, 0x70,
  0xF0, 0x10, 0xF0, 0x80, 0xF0,
  0xF0, 0x10, 0xF0, 0x10, 0xF0,
  0x90, 0x90, 0xF0, 0x10, 0x10,
  0xF0, 0x80, 0xF0, 0x10, 0xF0,
  0xF0, 0x80, 0xF0, 0x90, 0xF0,
  0xF0, 0x10, 0x20, 0x40, 0x40,
  0xF0, 0x90, 0xF0, 0x90, 0xF0,
  0xF0, 0x90, 0xF0, 0x10, 0xF0,
  0xF0, 0x90, 0xF0, 0x90, 0x90,
  0xE0, 0x90, 0xE0, 0x90, 0xE0,
  0xF0, 0x80, 0x80, 0x80, 0xF0,
  0xE0, 0x90, 0x90, 0x90, 0xE0,
  0xF0, 0x80, 0xF0, 0x80, 0xF0,
  0xF0, 0x80, 0xF0, 0x80, 0x80]

/-- The byte nearest to `n`. -/
def clampByte (n : Int) : UInt8 :=
  if n < 0 then 0 else if 255 < n then 255 else UInt8.ofNat n.toNat

@[simp] theorem clampByte_ofNat_toNat (b : UInt8) : clampByte (b.toNat : Int) = b := by
  have := b.toNat_lt
  have h0 : ¬ (b.toNat : Int) < 0 := by omega
  have h1 : ¬ 255 < (b.toNat : Int) := by omega
  simp [clampByte, h0, h1]

theorem toNat_clampByte (n : Int) : ((clampByte n).toNat : Int) = max 0 (min 255 n) := by
  unfold clampByte
  split
  · simp; omega
  · split
    · simp; omega
    · rw [UInt8.toNat_ofNat_of_lt' (by have : UInt8.size = 256 := rfl; omega)]
      omega

/-- The contents of the address space. -/
structure Memory where
  bytes : Vector UInt8 4096
deriving DecidableEq

namespace Memory

/-- Writes `data` from the index `a` on, as far as it fits. -/
def overwrite (bytes : Vector UInt8 4096) (a : Nat) : List UInt8 → Vector UInt8 4096
  | [] => bytes
  | b :: rest => overwrite (bytes.setIfInBounds a b) (a + 1) rest

/-- Memory after a reset: the font, and zeros. -/
def initial : Memory := ⟨overwrite (Vector.replicate 4096 0) fontAddress font⟩

/-- The place of an address, if it is in the address space. -/
def index (a : Int) : Except Fault (Fin 4096) :=
  if h : 0 ≤ a ∧ a < 4096 then .ok ⟨a.toNat, by omega⟩ else .error (.addressOutOfBounds a)

/-- The byte at an address. -/
def read (m : Memory) (a : Int) : Except Fault UInt8 :=
  (index a).map fun k => m.bytes[k]

/-- Writes one value, clamped to a byte. -/
def write (m : Memory) (a value : Int) : Except Fault Memory :=
  (index a).map fun k => ⟨m.bytes.set k.val (clampByte value) k.isLt⟩

/-- Writes a block of values, each clamped to a byte, from `offset` on. If the offset is outside
the address space, or else the last address of the block, nothing is written. -/
def load (m : Memory) (offset : Int) (data : List Int) : Except Fault Memory := do
  let start ← index offset
  if data.isEmpty then
    return m
  let _ ← index (offset + data.length - 1)
  return ⟨overwrite m.bytes start (data.map clampByte)⟩

/-- The `count` bytes from `offset` on; the first address outside the space is the fault. -/
def block (m : Memory) (offset : Int) : Nat → Except Fault (List UInt8)
  | 0 => .ok []
  | count + 1 => do
    let b ← m.read offset
    let rest ← m.block (offset + 1) count
    return b :: rest

/-- The block whose size may be any number; it is empty if the size is not positive. -/
def blockOfSize (m : Memory) (offset size : Int) : Except Fault (List UInt8) :=
  m.block offset size.toNat

/-! ## The view of a memory by address -/

theorem index_eq_ok_iff {a : Int} {k : Fin 4096} : index a = .ok k ↔ a = k.val := by
  unfold index
  split
  · rw [Except.ok.injEq, Fin.ext_iff]; simp; omega
  · simp; omega

theorem index_eq_error_iff {a : Int} {e : Fault} :
    index a = .error e ↔ ¬ (0 ≤ a ∧ a < 4096) ∧ e = .addressOutOfBounds a := by
  unfold index
  split <;> rename_i h
  · simp [h]
  · simp only [Except.error.injEq]
    exact ⟨fun he => ⟨h, he.symm⟩, fun he => he.2.symm⟩

theorem getElem_overwrite (bytes : Vector UInt8 4096) (a : Nat) (data : List UInt8) (k : Nat)
    (hk : k < 4096) :
    (overwrite bytes a data)[k] =
      if h : a ≤ k ∧ k < a + data.length then data[k - a] else bytes[k] := by
  induction data generalizing bytes a with
  | nil =>
    have h : ¬ (a ≤ k ∧ k < a + ([] : List UInt8).length) := by
      rw [List.length_nil]
      omega
    rw [overwrite, dif_neg h]
  | cons b rest ih =>
    rw [overwrite, ih, Vector.getElem_setIfInBounds hk]
    by_cases h1 : a = k
    · subst h1
      rw [dif_neg (by omega), dif_pos (by simp)]
      simp
    · by_cases h2 : a + 1 ≤ k ∧ k < a + 1 + rest.length
      · rw [dif_pos h2, dif_pos (by simp; omega)]
        have : k - a = (k - (a + 1)) + 1 := by omega
        simp [this]
      · rw [dif_neg h2, dif_neg (by simp; omega), if_neg h1]

theorem read_eq_ok {m : Memory} {a : Nat} (h : a < 4096) : m.read a = .ok m.bytes[a] := by
  unfold read index
  rw [dif_pos (by omega)]
  simp [Except.map]

end Memory

end Chip8
