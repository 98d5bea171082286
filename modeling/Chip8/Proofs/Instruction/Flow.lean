import Chip8.Proofs.Instruction.Footprint

set_option autoImplicit false

/-! # Where a word leads to

What comes after an instruction is told by its kind (`Instruction.nextPc`): a target, the word after
the next one if the next one is skipped, or the next word. Here it is told by the form of the word
(`Word.LeadsTo`): five forms have a target, six may skip, and every other word leads to the next
one, whether it has a form or not. Both say the same of every word and every state
(`leadsTo_nextPc`).
-/

namespace Chip8

namespace Instruction

/-! ## Operands

An operand is the same part of the word in all instructions that have it.
-/

/-- The second register operand of a skip that compares two registers. -/
def y? : Instruction → Option Reg
  | skipIfEqual _ y => some y
  | skipUnlessEqual _ y => some y
  | _ => none

/-- The byte that a skip compares a register with. -/
def kk? : Instruction → Option UInt8
  | skipIfByte _ kk => some kk
  | skipUnlessByte _ kk => some kk
  | _ => none

/-- The address operand of a jump or a call. -/
def nnn? : Instruction → Option (Fin 4096)
  | jump nnn => some nnn
  | call nnn => some nnn
  | jumpOffset nnn => some nnn
  | _ => none

theorem y?_decode {w : Word} {y : Reg} (h : (decode w).y? = some y) : y = w.y := by
  unfold decode at h
  split at h <;> cases h <;> rfl

theorem kk?_decode {w : Word} {kk : UInt8} (h : (decode w).kk? = some kk) : kk = w.kk := by
  unfold decode at h
  split at h <;> cases h <;> rfl

theorem nnn?_decode {w : Word} {nnn : Fin 4096} (h : (decode w).nnn? = some nnn) :
    nnn = w.nnn := by
  unfold decode at h
  split at h <;> cases h <;> rfl

end Instruction

namespace Word

open Instruction

/-! ## Targets and skips -/

/-- The word `w` skips the next one in the state `s`. -/
def Skips (w : Word) (s : State) : Prop :=
  (w.IsOneOf ["3xkk"] ∧ s.get w.x = w.kk) ∨ (w.IsOneOf ["4xkk"] ∧ s.get w.x ≠ w.kk) ∨
    (w.IsOneOf ["5xy0"] ∧ s.get w.x = s.get w.y) ∨ (w.IsOneOf ["9xy0"] ∧ s.get w.x ≠ s.get w.y) ∨
    (w.IsOneOf ["Ex9E"] ∧ s.keypad.isDown (Key.ofByte (s.get w.x)) = true) ∨
    (w.IsOneOf ["ExA1"] ∧ s.keypad.isDown (Key.ofByte (s.get w.x)) = false)

/-- The forms of the words that lead to a target. -/
def transfers : List String := ["00EE", "1nnn", "2nnn", "Bnnn", "Fx0A"]

/-- The word `w`, executed in the state `s`, leads to the address `pc`. -/
structure LeadsTo (w : Word) (s : State) (pc : Int) : Prop where
  jump : w.IsOneOf ["1nnn", "2nnn"] → pc = w.nnn.val
  offset : w.IsOneOf ["Bnnn"] → pc = ((s.get 0).toNat + w.nnn.val) % 0x1000
  ret : w.IsOneOf ["00EE"] → pc = s.stack.toList.getLastD 0
  wait : w.IsOneOf ["Fx0A"] → pc = s.pc
  skip : w.Skips s → pc = s.pc + 4
  next : ¬ w.IsOneOf transfers → ¬ w.Skips s → pc = s.pc + 2

variable {w : Int} (hw : 0 ≤ w ∧ w ≤ 0xFFFF) (s : State)

include hw in
/-- A word has a form just if its instruction has. -/
theorem form?_decode_iff {f : String} (hf : f ∈ forms) :
    IsOneOf w [f] ↔ (decode w).form? = some f := by
  rw [isOneOf_iff hw (by simpa using hf), Instruction.IsOneOf]
  simp

include hw in
/-- The instruction of a word goes elsewhere as its form says. -/
theorem target?_decode_iff {a : Int} :
    (decode w).target? s = some a ↔
      (IsOneOf w ["1nnn", "2nnn"] ∧ a = (nnn w).val) ∨
        (IsOneOf w ["Bnnn"] ∧ a = ((s.get 0).toNat + (nnn w).val) % 0x1000) ∨
        (IsOneOf w ["00EE"] ∧ a = s.stack.toList.getLastD 0) ∨
        (IsOneOf w ["Fx0A"] ∧ a = s.pc) := by
  have hnnn {i : Instruction} {n : Fin 4096} (hi : decode w = i) (hn : i.nnn? = some n) :
      nnn w = n :=
    (nnn?_decode (by rw [hi]; exact hn)).symm
  rw [isOneOf_iff hw (by decide), isOneOf_iff hw (by decide), isOneOf_iff hw (by decide),
    isOneOf_iff hw (by decide)]
  simp only [Instruction.IsOneOf]
  -- every kind of instruction has one form, and its operand is the part of the word
  cases hi : decode w with
  | ret => simp [target?, form?, CallStack.top_eq_getLastD, eq_comm]
  | jump n => simp [target?, form?, hnnn hi rfl, eq_comm]
  | call n => simp [target?, form?, hnnn hi rfl, eq_comm]
  | jumpOffset n => simp [target?, form?, hnnn hi rfl, eq_comm, jumpBase]
  | awaitKey x => simp [target?, form?, eq_comm]
  | _ => simp [target?, form?]

include hw in
/-- The instruction of a word skips as its form says. -/
theorem skips_decode_iff : (decode w).skips s = true ↔ Skips w s := by
  have hx {i : Instruction} {r : Reg} (hi : decode w = i) (hr : i.x? = some r) : x w = r :=
    (x?_decode (by rw [hi]; exact hr)).symm
  have hy {i : Instruction} {r : Reg} (hi : decode w = i) (hr : i.y? = some r) : y w = r :=
    (y?_decode (by rw [hi]; exact hr)).symm
  have hkk {i : Instruction} {b : UInt8} (hi : decode w = i) (hb : i.kk? = some b) : kk w = b :=
    (kk?_decode (by rw [hi]; exact hb)).symm
  unfold Skips
  rw [form?_decode_iff hw (by decide), form?_decode_iff hw (by decide),
    form?_decode_iff hw (by decide), form?_decode_iff hw (by decide),
    form?_decode_iff hw (by decide), form?_decode_iff hw (by decide)]
  cases hi : decode w with
  | skipIfByte r b => simp [skips, form?, hx hi rfl, hkk hi rfl]
  | skipUnlessByte r b => simp [skips, form?, hx hi rfl, hkk hi rfl]
  | skipIfEqual r q => simp [skips, form?, hx hi rfl, hy hi rfl]
  | skipUnlessEqual r q => simp [skips, form?, hx hi rfl, hy hi rfl]
  | skipIfKey r => simp [skips, form?, hx hi rfl]
  | skipUnlessKey r => simp [skips, form?, hx hi rfl]
  | _ => simp [skips, form?]

/-- An instruction that skips has no target. -/
theorem target?_of_skips {i : Instruction} {s : State} (h : i.skips s = true) :
    i.target? s = none := by
  cases i <;> first | rfl | cases h

include hw in
/-- The program counter that the instruction of a word leaves is where the word leads to. -/
theorem leadsTo_nextPc : LeadsTo w s ((decode w).nextPc s) := by
  have htarget {a : Int} (h : (decode w).target? s = some a) : (decode w).nextPc s = a := by
    rw [nextPc, h]
    rfl
  constructor
  · intro h
    exact htarget ((target?_decode_iff hw s).2 (.inl ⟨h, rfl⟩))
  · intro h
    exact htarget ((target?_decode_iff hw s).2 (.inr (.inl ⟨h, rfl⟩)))
  · intro h
    exact htarget ((target?_decode_iff hw s).2 (.inr (.inr (.inl ⟨h, rfl⟩))))
  · intro h
    exact htarget ((target?_decode_iff hw s).2 (.inr (.inr (.inr ⟨h, rfl⟩))))
  · intro h
    have hskips := (skips_decode_iff hw s).2 h
    rw [nextPc, target?_of_skips hskips, hskips]
    rfl
  · intro hform hno
    have hskips : (decode w).skips s = false :=
      Bool.eq_false_iff.2 fun hskips => hno ((skips_decode_iff hw s).1 hskips)
    have hnone : (decode w).target? s = none := by
      cases ht : (decode w).target? s with
      | none => rfl
      | some a =>
          have hin {fs : List String} (hfs : ∀ f ∈ fs, f ∈ transfers) (h : IsOneOf w fs) :
              IsOneOf w transfers := by
            obtain ⟨f, hf, hfits⟩ := h
            exact ⟨f, hfs f hf, hfits⟩
          refine absurd ?_ hform
          rcases (target?_decode_iff hw s).1 ht with ⟨h, _⟩ | ⟨h, _⟩ | ⟨h, _⟩ | ⟨h, _⟩ <;>
            exact hin (by decide) h
    rw [nextPc, hnone, hskips]
    rfl

end Word

end Chip8
