import Chip8.Config.Build
import Chip8.Proofs.Instruction.Digits
import Chip8.Proofs.Instruction.Footprint
import Chip8.Proofs.Memory.Transfer

set_option autoImplicit false

/-! # Storing and loading registers

`Fx55` puts `V0` to `Vx` into the memory from the address `I` on (`Stores`), and `Fx65` takes them
from there (`Loads`). Both move `I` behind the last byte. If the block lies in the memory neither
fails.

Each undoes the other (`load_undoes_store`). What was stored is loaded again whatever has happened
in between, as long as the bytes are still there and `I` is put back; fewer registers may be loaded
than were stored. And what was loaded may be stored again, which changes nothing.
-/

namespace Chip8

/-! ## Rows of registers -/

namespace Registers

theorem getElem_upTo (r : Registers) (x : Reg) {k : Nat} (hk : k < (r.upTo x).length)
    (hk' : k < 16) :
    (r.upTo x)[k] = r.get ⟨k, hk'⟩ := by
  have hlist : k < r.v.toList.length := by
    rw [Vector.length_toList]
    exact hk'
  have htake : (r.upTo x)[k] = r.v.toList[k] := List.getElem_take
  exact htake.trans (Vector.getElem_toList _)

/-- Setting a row of registers gives each of them its value. -/
theorem get_setFrom (r : Registers) (k : Nat) (bytes : List UInt8) {j : Nat} (hj : j < bytes.length)
    {z : Reg} (hz : z.val = k + j) : (r.setFrom k bytes).get z = bytes[j] := by
  induction bytes generalizing r k j with
  | nil => cases hj
  | cons b rest ih =>
      cases j with
      | zero =>
          -- the registers behind it are set later, and do not disturb it
          have hbehind := get_setFrom_of_le { r with v := r.v.setIfInBounds k b } (k + 1) rest
            (z := z) (.inl (by omega))
          have heq : k = z.val := hz.symm
          calc (r.setFrom k (b :: rest)).get z
              = ({ r with v := r.v.setIfInBounds k b } : Registers).get z := hbehind
            _ = (r.v.setIfInBounds k b)[z.val] := rfl
            _ = b := by rw [Vector.getElem_setIfInBounds z.isLt, if_pos heq]
      | succ j =>
          exact ih { r with v := r.v.setIfInBounds k b } (k + 1) (Nat.lt_of_succ_lt_succ hj)
            (by omega)

end Registers

/-- Bytes that were written as a block are read at their addresses. -/
theorem Memory.read_of_load {m n : Memory} {start : Int} {bytes : List UInt8}
    (h : m.load start (bytes.map fun b => (b.toNat : Int)) = .ok n) {k : Nat}
    (hk : k < bytes.length) : n.read (start + k) = .ok bytes[k] := by
  obtain ⟨b, hread, hvalue⟩ := (written_of_load h).within k (by simpa using hk)
  have hb := bytes[k].toNat_lt
  simp only [List.getElem_map, clamp] at hvalue
  have hbyte : b = bytes[k] := UInt8.toNat_inj.1 (by omega)
  rw [hread, hbyte]

/-! ## The two instructions -/

open Instruction

/-- The word `Fx55` makes the state `t` of the state `s`. -/
structure Stores (s : State) (x : Reg) (t : State) : Prop where
  execute : (decode (Word.ofDigits 0xF x 5 5)).execute s = .ok t
  values : ∀ z ≤ x, t.memory.read (s.registers.i + z.val) = .ok (s.get z)
  elsewhere : ∀ a, a < s.registers.i ∨ s.registers.i + x.val < a →
    t.memory.read a = s.memory.read a
  index : t.registers.i = s.registers.i + x.val + 1
  rest : t = { s with memory := t.memory, registers := { s.registers with i := t.registers.i } }

/-- The word `Fx65` makes the state `t` of the state `s`. -/
structure Loads (s : State) (x : Reg) (t : State) : Prop where
  execute : (decode (Word.ofDigits 0xF x 6 5)).execute s = .ok t
  values : ∀ z ≤ x, s.memory.read (s.registers.i + z.val) = .ok (t.get z)
  others : ∀ z, x < z → t.get z = s.get z
  index : t.registers.i = s.registers.i + x.val + 1
  rest : t = { s with registers := { s.registers with v := t.registers.v, i := t.registers.i } }

section Exists

variable {s : State} {x : Reg} (h : 0 ≤ s.registers.i ∧ s.registers.i + x.val ≤ 0xFFF)

include h

/-- `I` is moved behind the block, which is at most the address behind the memory. -/
theorem index_mod : (s.registers.i + x.val + 1) % 0x10000 = s.registers.i + x.val + 1 := by
  omega

theorem exists_stores : ∃ t, Stores s x t := by
  have hlength : ((s.registers.upTo x).map fun b => (b.toNat : Int)).length = x.val + 1 := by
    rw [List.length_map, length_upTo]
  obtain ⟨n, hload⟩ :
      ∃ n, s.memory.load s.registers.i
        ((s.registers.upTo x).map fun b => (b.toNat : Int)) = .ok n :=
    ⟨_, Memory.load_eq_ok_iff.2 ⟨by omega, rfl⟩⟩
  refine ⟨{ s with
    memory := n
    registers := s.registers.setI (s.registers.i + x.val + 1) }, ?_, ?_, ?_, index_mod h, rfl⟩
  · rw [decode_store]
    exact execute_store_eq_ok_iff.2 ⟨n, hload, rfl⟩
  · intro z hz
    have hk : z.val < (s.registers.upTo x).length := by
      rw [length_upTo]
      exact Nat.lt_succ_of_le hz
    show n.read _ = _
    rw [Memory.read_of_load hload hk, s.registers.getElem_upTo x hk z.isLt]
    rfl
  · intro a ha
    have helsewhere := (Memory.written_of_load hload).elsewhere a
    rw [List.length_map, hlength] at helsewhere
    exact helsewhere (by omega)

theorem exists_loads : ∃ t, Loads s x t := by
  have hfits : 0 ≤ s.registers.i ∧ s.registers.i + (x.val + 1 : Nat) ≤ 4096 := by omega
  obtain ⟨bytes, hblock, hlength, hread⟩ := s.memory.blockOfSize_of_fits s.registers.i
    (by omega) hfits
  have hget : ∀ (z : Reg) (hz : z.val < bytes.length),
      (s.registers.setFrom 0 bytes).get z = bytes[z.val] := by
    intro z hz
    exact s.registers.get_setFrom 0 bytes hz (Nat.zero_add _).symm
  refine ⟨{ s with
    registers := (s.registers.setFrom 0 bytes).setI (s.registers.i + x.val + 1) },
    ?_, ?_, ?_, index_mod h, ?_⟩
  · rw [decode_load]
    exact execute_load_eq_ok_iff.2 ⟨bytes, hblock, rfl⟩
  · intro z hz
    have hle : z.val ≤ x.val := hz
    have hk : z.val < bytes.length := by omega
    rw [hread z.val hk, ← hget z hk]
    rfl
  · intro z hz
    have hlt : x.val < z.val := hz
    exact Registers.get_setFrom_of_le _ 0 bytes (by omega)
  · rw [s.registers.setFrom_eq 0 bytes]
    rfl

end Exists

theorem Stores.get {s t : State} {x : Reg} (h : Stores s x t) (z : Reg) : t.get z = s.get z := by
  rw [h.rest]
  rfl

theorem Loads.memory {s t : State} {x : Reg} (h : Loads s x t) : t.memory = s.memory := by
  rw [h.rest]

/-- Two memories that are read alike at all addresses are equal. -/
theorem Memory.ext_read {m n : Memory} (h : ∀ a, n.read a = m.read a) : n = m := by
  obtain ⟨bytes⟩ := m
  obtain ⟨bytes'⟩ := n
  refine congrArg Memory.mk (Vector.ext fun k hk => ?_)
  have hk' := h k
  rw [read_eq_ok hk, read_eq_ok hk] at hk'
  exact Except.ok.inj hk'

/-! ## Each undoes the other -/

/-- What was stored is loaded again from the bytes that were stored. -/
theorem get_of_stores_loads {s t u r : State} {x y z : Reg} (hst : Stores s x t) (hld : Loads u y r)
    (hyx : y ≤ x) (hi : u.registers.i = s.registers.i)
    (hu : ∀ a, s.registers.i ≤ a → a ≤ s.registers.i + x.val → u.memory.read a = t.memory.read a)
    (hz : z ≤ y) : r.get z = s.get z := by
  have hzx : z.val ≤ x.val := le_trans hz hyx
  have hloaded := hld.values z hz
  rw [hi, hu _ (by omega) (by omega), hst.values z hzx] at hloaded
  exact (Except.ok.inj hloaded).symm

/-- What was loaded may be stored again. -/
theorem memory_of_loads_stores {s t u r : State} {x : Reg} (hld : Loads s x t) (hst : Stores u x r)
    (hi : u.registers.i = s.registers.i) (hmemory : u.memory = t.memory)
    (hget : ∀ z ≤ x, u.get z = t.get z) : r.memory = s.memory := by
  refine Memory.ext_read fun a => ?_
  by_cases hin : s.registers.i ≤ a ∧ a ≤ s.registers.i + x.val
  · -- the address is that of a register, which has the byte that was there
    obtain ⟨z, hz, rfl⟩ : ∃ z : Reg, z ≤ x ∧ a = s.registers.i + z.val := by
      refine ⟨⟨(a - s.registers.i).toNat, by omega⟩, ?_, ?_⟩
      · show (a - s.registers.i).toNat ≤ x.val
        omega
      · show a = s.registers.i + ((a - s.registers.i).toNat : Int)
        omega
    have hstored := hst.values z hz
    rw [hi, hget z hz] at hstored
    rw [hstored, hld.values z hz]
  · rw [hst.elsewhere a (by omega), hmemory, hld.memory]

/-- **Storing and loading undo each other.** Let the block from `I` on lie in the memory. Then `V0`
to `Vx` can be stored, and any `V0` to `Vy` of them have their values again when they are loaded in
a state with the same `I` and the same bytes in the block. And `V0` to `Vx` can be loaded, and to
store them in a state with the same `I` leaves the memory as it was. -/
theorem load_undoes_store {s : State} {x : Reg}
    (h : 0 ≤ s.registers.i ∧ s.registers.i + x.val ≤ 0xFFF) :
    (∃ t, Stores s x t ∧
      ∀ (u : State) (y : Reg), y ≤ x → u.registers.i = s.registers.i →
        (∀ a, s.registers.i ≤ a → a ≤ s.registers.i + x.val →
          u.memory.read a = t.memory.read a) →
        ∃ r, Loads u y r ∧ ∀ z ≤ y, r.get z = s.get z) ∧
    ∃ t, Loads s x t ∧
      ∀ u : State, u.registers.i = s.registers.i → u.memory = t.memory →
        (∀ z ≤ x, u.get z = t.get z) → ∃ r, Stores u x r ∧ r.memory = s.memory := by
  constructor
  · obtain ⟨t, hst⟩ := exists_stores h
    refine ⟨t, hst, fun u y hyx hi hu => ?_⟩
    have hy : y.val ≤ x.val := hyx
    obtain ⟨r, hld⟩ := exists_loads (s := u) (x := y) (by omega)
    exact ⟨r, hld, fun z hz => get_of_stores_loads hst hld hyx hi hu hz⟩
  · obtain ⟨t, hld⟩ := exists_loads h
    refine ⟨t, hld, fun u hi hmemory hget => ?_⟩
    obtain ⟨r, hst⟩ := exists_stores (s := u) (x := x) (by omega)
    exact ⟨r, hst, memory_of_loads_stores hld hst hi hmemory hget⟩

/-- All registers are stored in the last bytes of the memory, and `V0` to `V3` are loaded again when
`V0` and `V4` have been overwritten. -/
theorem load_undoes_store_at_end :
    let s := (Config.machine {} (.ofSeed 0) 1 0 : Machine Nat).state.mapRegisters fun r =>
      ((r.set 0 7).set 4 9).setI 0xFF0
    (0 ≤ s.registers.i ∧ s.registers.i + (15 : Reg).val ≤ 0xFFF) ∧
      ∃ t, Stores s 15 t ∧ t.registers.i = 0x1000 ∧
        ∃ r, Loads (t.mapRegisters fun r => ((r.set 0 1).set 4 2).setI 0xFF0) 3 r ∧
          r.get 0 = 7 ∧ r.get 4 = 2 := by
  intro s
  have hi : s.registers.i = 0xFF0 := rfl
  have hfits : 0 ≤ s.registers.i ∧ s.registers.i + (15 : Reg).val ≤ 0xFFF := by
    rw [hi]
    decide
  obtain ⟨t, hst, hload⟩ := (load_undoes_store hfits).1
  refine ⟨hfits, t, hst, ?_, ?_⟩
  · rw [hst.index, hi]
    rfl
  · obtain ⟨r, hld, hget⟩ := hload (t.mapRegisters fun r => ((r.set 0 1).set 4 2).setI 0xFF0) 3
      (by decide) rfl (fun a _ _ => rfl)
    refine ⟨r, hld, ?_, ?_⟩
    · rw [hget 0 (by decide)]
      rfl
    · rw [hld.others 4 (by decide)]
      exact Registers.get_set_self (t.registers.set 0 1) 4 2

end Chip8
