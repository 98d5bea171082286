import Chip8.Log
import Chip8.Proofs.Memory.Block
import Mathlib.Tactic.Choose

set_option autoImplicit false

/-! # Transfers of blocks

A block is written in the course of the program one value after the other, each with a check of its
own (`writeEach`), after both ends have been checked (`loadEach`). When these two checks have
passed, no other fails, so that a block is written as a whole or not at all (`loadEach_eq`).

What a write leaves is told by the addresses: the values stand in the block, and elsewhere nothing
has changed (`Written`). A block that is read has the bytes that reading its addresses one by one
gives (`block_eq_ok_iff`). Together they say when a block can be written or read, what is then
there, and what fails otherwise (`transfer_exact`).
-/

namespace Chip8.Memory

/-! ## Writing a block -/

/-- The number nearest to `v` that is a byte. -/
def clamp (v : Int) : Int := max 0 (min 255 v)

/-- The memory `n` holds `data` from the address `start` on, and elsewhere what `m` holds. -/
structure Written (start : Int) (data : List Int) (m n : Memory) : Prop where
  within : ∀ (k : Nat) (hk : k < data.length),
    ∃ b, n.read (start + k) = .ok b ∧ (b.toNat : Int) = data[k]
  elsewhere : ∀ a, a < start ∨ start + data.length ≤ a → n.read a = m.read a

/-- Two memories with the same byte at an address, if it is one, are read alike there. -/
theorem read_congr {m n : Memory} {a : Int}
    (h : ∀ k : Fin 4096, a = k.val → n.bytes.get k = m.bytes.get k) : n.read a = m.read a := by
  unfold read
  cases hk : index a with
  | error e => rfl
  | ok k => exact congrArg Except.ok (h k (index_eq_ok_iff.1 hk))

/-- Values are written as the bytes nearest to them. -/
theorem written_of_load {m n : Memory} {start : Int} {data : List Int}
    (hload : m.load start data = .ok n) : Written start (data.map clamp) m n := by
  obtain ⟨⟨h0, _, hend⟩, rfl⟩ := load_eq_ok_iff.1 hload
  constructor
  · intro k hk
    rw [List.length_map] at hk
    have hlt : start.toNat + k < 4096 := by omega
    refine ⟨clampByte data[k], ?_, ?_⟩
    · refine read_eq_ok_iff.2 ⟨⟨start.toNat + k, hlt⟩, ?_, ?_⟩
      · show start + k = ((start.toNat + k : Nat) : Int)
        omega
      · show (overwrite m.bytes start.toNat (data.map clampByte))[start.toNat + k] = _
        rw [getElem_overwrite _ _ _ _ hlt, dif_pos (by simp; omega)]
        simp
    · rw [toNat_clampByte, List.getElem_map]
      rfl
  · intro a ha
    rw [List.length_map] at ha
    apply read_congr
    intro k hk
    show (overwrite m.bytes start.toNat (data.map clampByte))[k.val] = m.bytes[k.val]
    rw [getElem_overwrite _ _ _ _ k.isLt, dif_neg]
    simp only [List.length_map]
    omega

/-! ## One value after the other -/

/-- Writes one value after the other from the address `a` on. A write that fails ends this, and
those before it stay. -/
def writeEach (m : Memory) (a : Int) : List Int → Outcome Memory Unit
  | [] => { answer := .ok (), after := m }
  | v :: rest =>
    match m.write a v with
    | .error e => { answer := .error e, after := m }
    | .ok n => writeEach n (a + 1) rest

/-- Checks the two ends of a block, and then writes one value after the other. -/
def loadEach (m : Memory) (offset : Int) (data : List Int) : Outcome Memory Unit :=
  match index offset with
  | .error e => { answer := .error e, after := m }
  | .ok _ =>
    if data.isEmpty then { answer := .ok (), after := m }
    else
      match index (offset + data.length - 1) with
      | .error e => { answer := .error e, after := m }
      | .ok _ => m.writeEach offset data

theorem write_of_mem {m : Memory} {a v : Int} (h : 0 ≤ a ∧ a < 4096) :
    m.write a v = .ok ⟨m.bytes.setIfInBounds a.toNat (clampByte v)⟩ := by
  have hset : m.bytes.setIfInBounds a.toNat (clampByte v) =
      m.bytes.set a.toNat (clampByte v) (by omega) := by
    apply Vector.ext
    intro k hk
    rw [Vector.getElem_setIfInBounds hk, Vector.getElem_set]
  rw [write, index, dif_pos h, hset]
  rfl

/-- In the address space no write fails, and the values are written as a block is. -/
theorem writeEach_of_mem {m : Memory} {a : Int} {data : List Int}
    (h0 : 0 ≤ a) (hend : a + data.length ≤ 4096) :
    m.writeEach a data =
      { answer := .ok (), after := ⟨overwrite m.bytes a.toNat (data.map clampByte)⟩ } := by
  induction data generalizing m a with
  | nil => rfl
  | cons v rest ih =>
      rw [List.length_cons] at hend
      have hnext : (a + 1).toNat = a.toNat + 1 := by omega
      simp only [writeEach, write_of_mem (m := m) (v := v) ⟨h0, by omega⟩]
      rw [ih (by omega) (by omega), hnext]
      rfl

/-- Written one value after the other, a block is written as a whole or not at all. -/
theorem loadEach_eq (m : Memory) (offset : Int) (data : List Int) :
    m.loadEach offset data =
      match m.load offset data with
      | .ok n => { answer := .ok (), after := n }
      | .error e => { answer := .error e, after := m } := by
  unfold loadEach load
  cases hstart : index offset with
  | error e => rfl
  | ok start =>
      have hs := index_eq_ok_iff.1 hstart
      simp only [bind, Except.bind]
      cases data with
      | nil => rfl
      | cons v rest =>
          simp only [List.isEmpty_cons, Bool.false_eq_true, if_false]
          cases hlast : index (offset + (v :: rest).length - 1) with
          | error e => rfl
          | ok last =>
              -- the last address is in the address space, and with it all the others
              have hl := index_eq_ok_iff.1 hlast
              have hoffset : offset.toNat = start := by omega
              simp only [pure, Except.pure]
              rw [writeEach_of_mem (by omega) (by omega), hoffset]

/-! ## Reading a block -/

/-- A block has the bytes that reading its addresses gives. -/
theorem block_eq_ok_iff {m : Memory} {offset : Int} {count : Nat} {bytes : List UInt8} :
    m.block offset count = .ok bytes ↔
      bytes.length = count ∧
        ∀ (k : Nat) (hk : k < bytes.length), m.read (offset + k) = .ok bytes[k] := by
  induction count generalizing offset bytes with
  | zero =>
      rw [block, Except.ok.injEq, List.length_eq_zero_iff]
      constructor
      · rintro rfl
        exact ⟨rfl, fun k hk => absurd hk (Nat.not_lt_zero k)⟩
      · exact fun h => h.1.symm
  | succ count ih =>
      rw [block_succ_eq_ok_iff]
      constructor
      · rintro ⟨b, rest, hb, hrest, rfl⟩
        obtain ⟨hlength, hread⟩ := ih.1 hrest
        refine ⟨congrArg (· + 1) hlength, ?_⟩
        intro k hk
        cases k with
        | zero => simpa using hb
        | succ k =>
            have haddress : offset + ((k + 1 : Nat) : Int) = offset + 1 + k := by omega
            rw [haddress, List.getElem_cons_succ]
            exact hread k (Nat.lt_of_succ_lt_succ hk)
      · rintro ⟨hlength, hread⟩
        cases bytes with
        | nil => cases hlength
        | cons b rest =>
            refine ⟨b, rest, by simpa using hread 0 (Nat.succ_pos _), ih.2 ⟨?_, ?_⟩, rfl⟩
            · exact Nat.succ.inj hlength
            · intro k hk
              have haddress : offset + 1 + (k : Int) = offset + ((k + 1 : Nat) : Int) := by omega
              rw [haddress]
              exact hread (k + 1) (Nat.succ_lt_succ hk)

/-- What was written as a block is read as a block. -/
theorem block_of_written {m n : Memory} {start : Int} {data : List Int}
    (h : Written start data m n) :
    ∃ bytes, n.block start data.length = .ok bytes ∧
      bytes.map (fun b => (b.toNat : Int)) = data := by
  choose byte hread hvalue using h.within
  refine ⟨List.ofFn fun k : Fin data.length => byte k k.isLt, ?_, ?_⟩
  · refine block_eq_ok_iff.2 ⟨List.length_ofFn, ?_⟩
    intro k hk
    rw [List.getElem_ofFn]
    exact hread k _
  · refine List.ext_getElem (by simp) ?_
    intro k hk hk'
    rw [List.getElem_map, List.getElem_ofFn]
    exact hvalue k hk'

/-! ## When a block can be transferred -/

/-- An address of the memory. -/
def InSpace (a : Int) : Prop := 0 ≤ a ∧ a < 4096

instance (a : Int) : Decidable (InSpace a) := inferInstanceAs (Decidable (_ ∧ _))

/-- A block can be written: it begins in the memory, even if it is empty, and ends there. -/
def Fits (offset size : Int) : Prop := InSpace offset ∧ offset + size ≤ 4096

/-- The memory `n` is what `m` is when a block was written. The values stand there, cut to bytes,
and are read back, and nothing else has changed. -/
structure Transferred (m : Memory) (offset : Int) (data : List Int) (n : Memory) : Prop where
  load : m.load offset data = .ok n
  each : m.loadEach offset data = { answer := .ok (), after := n }
  written : Written offset (data.map clamp) m n
  readBack : ∃ bytes, n.blockOfSize offset data.length = .ok bytes ∧
    bytes.map (fun b => (b.toNat : Int)) = data.map clamp

/-- A block is refused on account of the address `a`, and nothing has changed. -/
structure Refused (m : Memory) (offset : Int) (data : List Int) (a : Int) : Prop where
  load : m.load offset data = .error (.addressOutOfBounds a)
  each : m.loadEach offset data = { answer := .error (.addressOutOfBounds a), after := m }

section Transfer

variable (m : Memory) (offset : Int)

theorem exists_transferred {data : List Int} (h : Fits offset data.length) :
    ∃ n, Transferred m offset data n := by
  have hload := load_eq_ok_iff (m := m).2 ⟨⟨h.1.1, h.1.2, h.2⟩, rfl⟩
  have heach := m.loadEach_eq offset data
  rw [hload] at heach
  have hwritten := written_of_load hload
  have hread := block_of_written hwritten
  rw [List.length_map] at hread
  exact ⟨_, hload, heach, hwritten, hread⟩

theorem refused_of_not_fits {data : List Int} (h : ¬ Fits offset data.length) :
    Refused m offset data (if InSpace offset then offset + data.length - 1 else offset) := by
  have hload : m.load offset data = .error (.addressOutOfBounds
      (if InSpace offset then offset + data.length - 1 else offset)) := by
    refine load_eq_error_iff.2 ?_
    by_cases hin : InSpace offset
    · have hend : ¬ offset + data.length ≤ 4096 := fun hle => h ⟨hin, hle⟩
      exact .inr ⟨hin.1, hin.2, by omega, by rw [if_pos hin]⟩
    · exact .inl ⟨hin, by rw [if_neg hin]⟩
  have heach := m.loadEach_eq offset data
  rw [hload] at heach
  exact ⟨hload, heach⟩

theorem blockOfSize_of_fits {size : Int} (hsize : 1 ≤ size)
    (h : 0 ≤ offset ∧ offset + size ≤ 4096) :
    ∃ bytes, m.blockOfSize offset size = .ok bytes ∧ (bytes.length : Int) = size ∧
      ∀ (k : Nat) (hk : k < bytes.length), m.read (offset + k) = .ok bytes[k] := by
  cases hblock : m.blockOfSize offset size with
  | ok bytes =>
      obtain ⟨hlength, hread⟩ := block_eq_ok_iff.1 hblock
      exact ⟨bytes, rfl, by omega, hread⟩
  | error e =>
      obtain ⟨_, ⟨hout, _⟩ | ⟨_, _, hend, _⟩⟩ := block_eq_error_iff.1 hblock
      · exact absurd ⟨h.1, by omega⟩ hout
      · omega

theorem blockOfSize_of_not_fits {size : Int} (hsize : 1 ≤ size)
    (h : ¬ (0 ≤ offset ∧ offset + size ≤ 4096)) :
    m.blockOfSize offset size =
      .error (.addressOutOfBounds (if InSpace offset then 4096 else offset)) := by
  refine block_eq_error_iff.2 ⟨by omega, ?_⟩
  by_cases hin : InSpace offset
  · have := hin.1
    exact .inr ⟨hin.1, hin.2, by omega, by rw [if_pos hin]⟩
  · exact .inl ⟨hin, by rw [if_neg hin]⟩

/-- **Transfers of blocks.** A block that fits is written as a whole. Any other is refused on
account of its first address if this is outside the memory, and of its last one if not. That the
values are written one after the other, each with a check of its own, makes no difference.

A block without a size is empty wherever it is. Any other is read if it lies in the memory, and has
the bytes that reading its addresses gives; if not, the first of its addresses that is outside is
the fault. -/
theorem transfer_exact (data : List Int) (size : Int) :
    (Fits offset data.length ∧ (∃ n, Transferred m offset data n) ∨
      ¬ Fits offset data.length ∧
        Refused m offset data (if InSpace offset then offset + data.length - 1 else offset)) ∧
    (size ≤ 0 ∧ m.blockOfSize offset size = .ok [] ∨
      1 ≤ size ∧ (0 ≤ offset ∧ offset + size ≤ 4096) ∧
        (∃ bytes, m.blockOfSize offset size = .ok bytes ∧ (bytes.length : Int) = size ∧
          ∀ (k : Nat) (hk : k < bytes.length), m.read (offset + k) = .ok bytes[k]) ∨
      1 ≤ size ∧ ¬ (0 ≤ offset ∧ offset + size ≤ 4096) ∧
        m.blockOfSize offset size =
          .error (.addressOutOfBounds (if InSpace offset then 4096 else offset))) := by
  constructor
  · by_cases h : Fits offset data.length
    · exact .inl ⟨h, m.exists_transferred offset h⟩
    · exact .inr ⟨h, m.refused_of_not_fits offset h⟩
  · by_cases hsize : size ≤ 0
    · have hzero : size.toNat = 0 := by omega
      exact .inl ⟨hsize, by rw [blockOfSize, hzero]; rfl⟩
    · have hpos : 1 ≤ size := by omega
      by_cases h : 0 ≤ offset ∧ offset + size ≤ 4096
      · exact .inr (.inl ⟨hpos, h, m.blockOfSize_of_fits offset hpos h⟩)
      · exact .inr (.inr ⟨hpos, h, m.blockOfSize_of_not_fits offset hpos h⟩)

end Transfer

end Chip8.Memory
