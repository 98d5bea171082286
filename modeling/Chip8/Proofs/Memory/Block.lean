import Chip8.Memory

set_option autoImplicit false

/-! # Blocks of memory

A block can be written if it lies in the address space as a whole, and read under the same
condition. The two differ in the fault: the write looks at the first address and then at the last
one (`load_eq_error_iff`), the read goes through the addresses in order
(`block_eq_error_iff`).
-/

namespace Chip8.Memory

theorem read_eq_ok_iff {m : Memory} {a : Int} {b : UInt8} :
    m.read a = .ok b ↔ ∃ k : Fin 4096, a = k.val ∧ m.bytes.get k = b := by
  unfold read
  cases h : index a with
  | error e =>
      simp only [Except.map, reduceCtorEq, false_iff, not_exists, not_and]
      intro k hk _
      rw [index_eq_ok_iff.2 hk] at h
      cases h
  | ok k =>
      have hk := index_eq_ok_iff.1 h
      simp only [Except.map, Except.ok.injEq]
      constructor
      · intro hb
        exact ⟨k, hk, hb⟩
      · rintro ⟨j, hj, hb⟩
        have hjk : k = j := Fin.ext (by omega)
        rw [hjk]
        exact hb

theorem read_eq_error_iff {m : Memory} {a : Int} {e : Fault} :
    m.read a = .error e ↔ ¬ (0 ≤ a ∧ a < 4096) ∧ e = .addressOutOfBounds a := by
  rw [← index_eq_error_iff]
  unfold read
  cases index a <;> simp [Except.map]

theorem exists_read_iff {m : Memory} {a : Int} : (∃ b, m.read a = .ok b) ↔ 0 ≤ a ∧ a < 4096 := by
  constructor
  · rintro ⟨b, hb⟩
    obtain ⟨k, hk, _⟩ := read_eq_ok_iff.1 hb
    omega
  · intro h
    cases hr : m.read a with
    | ok b => exact ⟨b, rfl⟩
    | error e => exact absurd h (read_eq_error_iff.1 hr).1

/-! ## Writing a block -/

theorem load_eq_ok_iff {m m' : Memory} {offset : Int} {data : List Int} :
    m.load offset data = .ok m' ↔
      (0 ≤ offset ∧ offset < 4096 ∧ offset + data.length ≤ 4096) ∧
        m' = ⟨overwrite m.bytes offset.toNat (data.map clampByte)⟩ := by
  unfold load
  cases h : index offset with
  | error e =>
      have ho := (index_eq_error_iff.1 h).1
      simp only [bind, Except.bind, reduceCtorEq, false_iff]
      omega
  | ok start =>
      have ho := index_eq_ok_iff.1 h
      have hs : offset.toNat = start := by omega
      simp only [bind, Except.bind, hs]
      -- the last address is looked at only if there is something to write
      cases data with
      | nil =>
          simp only [List.isEmpty_nil, if_true, pure, Except.pure, Except.ok.injEq,
            List.map_nil, overwrite, List.length_nil]
          exact ⟨fun e => ⟨by omega, e.symm⟩, fun e => e.2.symm⟩
      | cons n rest =>
          simp only [List.isEmpty_cons, Bool.false_eq_true, if_false, List.length_cons]
          cases hl : index (offset + ((rest.length + 1 : Nat) : Int) - 1) with
          | error e =>
              have := (index_eq_error_iff.1 hl).1
              simp only [reduceCtorEq, false_iff]
              omega
          | ok last =>
              have := index_eq_ok_iff.1 hl
              simp only [pure, Except.pure, Except.ok.injEq]
              exact ⟨fun e => ⟨by omega, e.symm⟩, fun e => e.2.symm⟩

theorem load_eq_error_iff {m : Memory} {offset : Int} {data : List Int} {e : Fault} :
    m.load offset data = .error e ↔
      (¬ (0 ≤ offset ∧ offset < 4096) ∧ e = .addressOutOfBounds offset) ∨
        (0 ≤ offset ∧ offset < 4096 ∧ 4096 < offset + data.length ∧
          e = .addressOutOfBounds (offset + data.length - 1)) := by
  unfold load
  cases h : index offset with
  | error e' =>
      obtain ⟨ho, rfl⟩ := index_eq_error_iff.1 h
      simp only [bind, Except.bind, Except.error.injEq]
      refine ⟨fun he => .inl ⟨ho, he.symm⟩, ?_⟩
      rintro (⟨_, he⟩ | ⟨h0, h1, _⟩)
      · exact he.symm
      · exact absurd ⟨h0, h1⟩ ho
  | ok start =>
      have ho := index_eq_ok_iff.1 h
      simp only [bind, Except.bind]
      cases data with
      | nil =>
          simp only [List.isEmpty_nil, if_true, pure, Except.pure, reduceCtorEq, false_iff,
            List.length_nil]
          omega
      | cons n rest =>
          simp only [List.isEmpty_cons, Bool.false_eq_true, if_false, List.length_cons]
          cases hl : index (offset + ((rest.length + 1 : Nat) : Int) - 1) with
          | error e' =>
              obtain ⟨hn, rfl⟩ := index_eq_error_iff.1 hl
              simp only [Except.error.injEq]
              refine ⟨fun he => .inr ⟨by omega, by omega, by omega, he.symm⟩, ?_⟩
              rintro (⟨hc, _⟩ | ⟨_, _, _, he⟩)
              · exact absurd ⟨by omega, by omega⟩ hc
              · exact he.symm
          | ok last =>
              have := index_eq_ok_iff.1 hl
              simp only [pure, Except.pure, reduceCtorEq, false_iff]
              omega

/-! ## Reading a block -/

theorem block_succ_eq_ok_iff {m : Memory} {offset : Int} {count : Nat} {bytes : List UInt8} :
    m.block offset (count + 1) = .ok bytes ↔
      ∃ b rest, m.read offset = .ok b ∧ m.block (offset + 1) count = .ok rest ∧
        bytes = b :: rest := by
  rw [block]
  cases m.read offset with
  | error e => simp [bind, Except.bind]
  | ok b =>
      cases m.block (offset + 1) count with
      | error e => simp [bind, Except.bind]
      | ok rest => simp [bind, Except.bind, pure, Except.pure, eq_comm]

theorem length_of_block {m : Memory} {offset : Int} {count : Nat} {bytes : List UInt8}
    (h : m.block offset count = .ok bytes) : bytes.length = count := by
  induction count generalizing offset bytes with
  | zero =>
      cases h
      rfl
  | succ count ih =>
      obtain ⟨b, rest, _, hrest, rfl⟩ := block_succ_eq_ok_iff.1 h
      rw [List.length_cons, ih hrest]

theorem block_succ_eq_error_iff {m : Memory} {offset : Int} {count : Nat} {e : Fault} :
    m.block offset (count + 1) = .error e ↔
      m.read offset = .error e ∨
        (∃ b, m.read offset = .ok b) ∧ m.block (offset + 1) count = .error e := by
  rw [block]
  cases m.read offset with
  | error e => simp [bind, Except.bind]
  | ok b =>
      cases m.block (offset + 1) count with
      | error e => simp [bind, Except.bind]
      | ok rest => simp [bind, Except.bind, pure, Except.pure]

theorem block_eq_error_iff {m : Memory} {offset : Int} {count : Nat} {e : Fault} :
    m.block offset count = .error e ↔
      0 < count ∧
        ((¬ (0 ≤ offset ∧ offset < 4096) ∧ e = .addressOutOfBounds offset) ∨
          (0 ≤ offset ∧ offset < 4096 ∧ 4096 < offset + count ∧
            e = .addressOutOfBounds 4096)) := by
  induction count generalizing offset with
  | zero => simp [block]
  | succ count ih =>
      -- either the first address is missing, or it is there and the rest fails
      rw [block_succ_eq_error_iff, ih, read_eq_error_iff, exists_read_iff]
      constructor
      · rintro (⟨hn, he⟩ | ⟨h0, hc, ⟨hn, rfl⟩ | ⟨_, _, hlt, he⟩⟩)
        · exact ⟨by omega, .inl ⟨hn, he⟩⟩
        · -- the rest fails at its first address, which is the one behind the last
          have h4096 : offset + 1 = 4096 := by omega
          exact ⟨by omega, .inr ⟨by omega, by omega, by omega, by rw [h4096]⟩⟩
        · exact ⟨by omega, .inr ⟨by omega, by omega, by omega, he⟩⟩
      · rintro ⟨_, ⟨hn, he⟩ | ⟨h0, h1, hlt, rfl⟩⟩
        · exact .inl ⟨hn, he⟩
        · refine .inr ⟨⟨h0, h1⟩, by omega, ?_⟩
          by_cases h4096 : offset + 1 = 4096
          · exact .inl ⟨by omega, by rw [h4096]⟩
          · exact .inr ⟨by omega, by omega, by omega, rfl⟩

end Chip8.Memory
