import Chip8.Proofs.Instruction.Effect
import Chip8.Proofs.Memory.Block

set_option autoImplicit false

/-! # When an instruction fails

Five kinds of instruction can fail while they are executed: a call on a full stack, and the four
that read or write a block of memory at `I`. `fault?` gives the fault from the operands and the
registers alone. On a screen with positive sides nothing else goes wrong (`execute_eq_error_iff`).

A write looks at the two ends of its block, so that its fault names `I` or the last address; a read
fails at the first address behind the memory.
-/

namespace Chip8.Instruction

/-- The fault of a block that begins at `first`, if `first` lies behind the memory or else the
address `bad`. -/
def blockFault (first bad : Int) : Fault :=
  .addressOutOfBounds (if 0xFFF < first then first else bad)

/-- The fault with which the execution of an instruction fails, if it does. -/
def fault? (i : Instruction) (s : State) : Option Fault :=
  let first := s.registers.i
  match i with
  | call _ => if s.stack.depth ≤ s.stack.size then some (.stackOverflow s.stack.given) else none
  | draw _ _ n =>
    if 1 ≤ n.val ∧ 0xFFF < first + n.val - 1 then some (blockFault first 0x1000) else none
  | storeDecimal _ => if 0xFFF < first + 2 then some (blockFault first (first + 2)) else none
  | store x => if 0xFFF < first + x.val then some (blockFault first (first + x.val)) else none
  | load x => if 0xFFF < first + x.val then some (blockFault first 0x1000) else none
  | _ => none

theorem load_error_iff {m : Memory} {first : Int} {data : List Int} {e : Fault} {last : Int}
    (h0 : 0 ≤ first) (hd : data ≠ []) (hl : last = first + data.length - 1) :
    m.load first data = .error e ↔ 0xFFF < last ∧ e = blockFault first last := by
  have hlen : 1 ≤ data.length := List.length_pos_iff.2 hd
  rw [Memory.load_eq_error_iff, blockFault]
  constructor
  · rintro (⟨hn, rfl⟩ | ⟨_, h1, hlt, rfl⟩)
    · exact ⟨by omega, by rw [if_pos (by omega)]⟩
    · exact ⟨by omega, by rw [if_neg (by omega), hl]⟩
  · rintro ⟨hlt, rfl⟩
    by_cases h1 : 0xFFF < first
    · exact .inl ⟨by omega, by rw [if_pos h1]⟩
    · exact .inr ⟨h0, by omega, by omega, by rw [if_neg h1, hl]⟩

theorem block_error_iff {m : Memory} {first : Int} {count : Nat} {e : Fault} (h0 : 0 ≤ first) :
    m.block first count = .error e ↔
      (1 ≤ count ∧ 0xFFF < first + count - 1) ∧ e = blockFault first 0x1000 := by
  rw [Memory.block_eq_error_iff, blockFault]
  constructor
  · rintro ⟨hc, ⟨hn, rfl⟩ | ⟨_, h1, hlt, rfl⟩⟩
    · exact ⟨by omega, by rw [if_pos (by omega)]⟩
    · exact ⟨by omega, by rw [if_neg (by omega)]⟩
  · rintro ⟨⟨hc, hlt⟩, rfl⟩
    by_cases h1 : 0xFFF < first
    · exact ⟨by omega, .inl ⟨by omega, by rw [if_pos h1]⟩⟩
    · exact ⟨by omega, .inr ⟨h0, by omega, by omega, by rw [if_neg h1]⟩⟩

theorem length_upTo (r : Registers) (x : Reg) : (r.upTo x).length = x.val + 1 := by
  have hx := x.isLt
  rw [Registers.upTo, List.length_take, Vector.length_toList]
  omega

theorem ite_some_eq_some_iff {α : Type} {c : Prop} [Decidable c] {a b : α} :
    (if c then some a else none) = some b ↔ c ∧ b = a := by
  by_cases h : c <;> simp [h, eq_comm]

/-- A drawing fails only in reading its rows. -/
theorem execute_draw_eq_error_iff {x y : Reg} {n : Fin 16} {s : State} {e : Fault}
    (hw : 0 < s.screen.width) (hh : 0 < s.screen.height) :
    (draw x y n).execute s = .error e ↔ s.memory.block s.registers.i n.val = .error e := by
  rw [execute]
  cases hb : s.memory.block s.registers.i n.val with
  | error e' => simp
  | ok rows =>
      -- the operand has four bits, so that the sprite is never too tall
      have hlen : (rows.map fun b => (b.toNat : Int)).length ≤ maxSpriteRows := by
        rw [List.length_map, Memory.length_of_block hb]
        have := n.isLt
        show n.val ≤ 15
        omega
      obtain ⟨d, hd, _⟩ := Screen.exists_draw hw hh (s.get x).toNat (s.get y).toNat hlen
      simp [hd, Except.map]

theorem execute_eq_error_iff {i : Instruction} {s : State} {e : Fault}
    (h0 : 0 ≤ s.registers.i) (hw : 0 < s.screen.width) (hh : 0 < s.screen.height) :
    i.execute s.advance = .error e ↔ i.fault? s = some e := by
  cases i with
  | call nnn =>
      rw [fault?, ite_some_eq_some_iff, execute, map_eq_error_iff]
      exact CallStack.push_eq_error_iff
  | draw x y n =>
      rw [fault?, ite_some_eq_some_iff]
      exact (execute_draw_eq_error_iff (s := s.advance) hw hh).trans (block_error_iff h0)
  | storeDecimal x =>
      rw [fault?, ite_some_eq_some_iff, execute, map_eq_error_iff]
      refine load_error_iff h0 (by simp [decimalDigits]) ?_
      show _ = s.registers.i + 3 - 1
      omega
  | store x =>
      rw [fault?, ite_some_eq_some_iff, execute, map_eq_error_iff]
      -- the block is `V0` to `Vx`, and never empty
      have hlen := length_upTo s.registers x
      refine load_error_iff h0 ?_ ?_
      · intro hnil
        have := congrArg List.length hnil
        rw [List.length_map] at this
        change (s.registers.upTo x).length = 0 at this
        omega
      · rw [List.length_map]
        change _ = s.registers.i + ((s.registers.upTo x).length : Int) - 1
        omega
  | load x =>
      rw [fault?, ite_some_eq_some_iff, execute, map_eq_error_iff]
      refine (block_error_iff h0).trans (and_congr_left fun _ => ?_)
      show _ ∧ 0xFFF < s.registers.i + ((x.val + 1 : Nat) : Int) - 1 ↔ _
      omega
  | _ => constructor <;> intro h <;> cases h

/-- The faults of an instruction halt the machine. -/
theorem isFatal_of_fault? {i : Instruction} {s : State} {e : Fault} (h : i.fault? s = some e) :
    e.isFatal = true := by
  cases i <;> simp only [fault?, ite_some_eq_some_iff, reduceCtorEq] at h <;> rw [h.2] <;> rfl

/-- An instruction succeeds unless it has a fault. -/
theorem exists_execute_iff {i : Instruction} {s : State}
    (h0 : 0 ≤ s.registers.i) (hw : 0 < s.screen.width) (hh : 0 < s.screen.height) :
    (∃ t, i.execute s.advance = .ok t) ↔ i.fault? s = none := by
  have herror := fun e => @execute_eq_error_iff i s e h0 hw hh
  cases h : i.execute s.advance with
  | ok t =>
      refine ⟨fun _ => ?_, fun _ => ⟨t, rfl⟩⟩
      rw [Option.eq_none_iff_forall_ne_some]
      intro e he
      rw [← herror, h] at he
      cases he
  | error e =>
      rw [(herror e).1 h]
      simp only [reduceCtorEq, exists_false]

theorem sameGrid_execute {i : Instruction} {s t : State} (hw : 0 < s.screen.width)
    (hh : 0 < s.screen.height) (h : i.execute s.advance = .ok t) :
    Screen.SameGrid s.screen t.screen := by
  by_cases hi : i.writesScreen = false
  · rw [(effect_of_execute h).screen hi]
    exact Screen.SameGrid.refl _
  · cases i with
    | clear =>
        cases h
        exact Screen.sameGrid_clear s.screen
    | draw x y n =>
        obtain ⟨rows, d, hb, hd, rfl⟩ := execute_draw_eq_ok_iff.1 h
        have hlen : (rows.map fun b => (b.toNat : Int)).length ≤ maxSpriteRows := by
          rw [List.length_map, Memory.length_of_block hb]
          show n.val ≤ 15
          omega
        obtain ⟨d', hd', hgrid⟩ :=
          Screen.exists_draw hw hh (s.get x).toNat (s.get y).toNat hlen
        cases hd.symm.trans hd'
        exact hgrid
    | _ => exact absurd rfl hi

end Chip8.Instruction
