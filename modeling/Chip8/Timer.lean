import Chip8.Memory

set_option autoImplicit false

/-! # Timers

A timer is a byte that counts down by one at every tick and stays at zero. The delay timer can be
read by a program; the host sounds a tone as long as the sound timer is active.
-/

namespace Chip8

/-- A counter that runs down to zero. -/
structure Timer where
  value : UInt8 := 0
deriving DecidableEq

namespace Timer

/-- Sets the counter, a value that is no byte being clamped to the nearest one. -/
def set (_ : Timer) (n : Int) : Timer := ⟨clampByte n⟩

/-- One count down. -/
def tick (t : Timer) : Timer := ⟨if t.value = 0 then 0 else t.value - 1⟩

/-- Whether the counter has not run down. -/
def isActive (t : Timer) : Bool := t.value != 0

/-- A tick takes one off the counter, and nothing off zero. -/
@[simp] theorem toNat_value_tick (t : Timer) : t.tick.value.toNat = t.value.toNat - 1 := by
  unfold tick
  split <;> rename_i h
  · simp [h]
  · have h1 : (1 : UInt8) ≤ t.value := by
      rw [UInt8.le_iff_toNat_le]
      have : t.value.toNat ≠ 0 := fun h0 => h (UInt8.toNat_inj.1 (by simpa using h0))
      simp; omega
    simp [UInt8.toNat_sub_of_le _ _ h1]

theorem isActive_iff (t : Timer) : t.isActive = true ↔ 0 < t.value.toNat := by
  unfold isActive
  rw [bne_iff_ne, Nat.pos_iff_ne_zero, Ne, Ne, ← UInt8.toNat_inj]
  simp

end Timer

end Chip8
