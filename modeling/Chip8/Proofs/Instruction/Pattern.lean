import Chip8.Instruction.Execute
import Chip8.Proofs.Instruction.Form

set_option autoImplicit false

/-! # Instructions by the pattern of their words

The pattern of a word says which instruction it is, if it is one at all, and the operands are taken
from the word (`ofPattern?`). There are 34 patterns. Decoding agrees with this table for every whole
number: `decode_of_pattern` for the numbers whose pattern is in it, and `decode_of_no_pattern` for
all others.

A word of 16 bits is put together again from its instruction (`word_decode`), so that no two such
words are the same instruction.
-/

namespace Chip8

namespace Word

variable (w : Int)

/-- The kinds that have one instruction only have no selector, whatever stands above 16 bits. -/
theorem selector_eq_zero (h : (digit w 3).val ∈ [1, 2, 3, 4, 6, 7, 0xA, 0xB, 0xC, 0xD]) :
    selector w = 0 := by
  have hdigit := val_digit w 3
  norm_num at hdigit
  simp only [List.mem_cons, List.not_mem_nil, or_false] at h
  rw [selector_eq_ite]
  split_ifs <;> omega

/-- A pattern is made of the highest digit of the word and of its selector. -/
theorem digits_of_pattern {p : Nat} (h : pattern w = p) :
    (digit w 3).val = p / 0x1000 ∧ selector w = p % 0x1000 := by
  have hlt : selector w < 0x1000 := by
    rw [selector_eq_ite]
    split_ifs <;> omega
  unfold pattern at h
  omega

/-- The address in a word is made of its three lower digits. -/
theorem nnn_eq_digits : (nnn w).val = (x w).val * 0x100 + (y w).val * 0x10 + (n w).val := by
  have h2 := val_digit w 2
  have h1 := val_digit w 1
  have h0 := val_digit w 0
  norm_num at h2 h1 h0
  show (w % 4096).toNat = (digit w 2).val * 0x100 + (digit w 1).val * 0x10 + (digit w 0).val
  omega

/-- The address in a word is made of a digit and the lower byte. -/
theorem nnn_eq_byte : (nnn w).val = (x w).val * 0x100 + (kk w).toNat := by
  have h2 := val_digit w 2
  norm_num at h2
  have hkk : (kk w).toNat = (w % 256).toNat := by
    rw [kk, UInt8.toNat_ofNat']
    omega
  rw [hkk]
  show (w % 4096).toNat = (digit w 2).val * 0x100 + (w % 256).toNat
  omega

/-- A word of 16 bits is its pattern with its operands: the digits that the pattern leaves out. -/
theorem eq_pattern_add {w : Int} (hw : 0 ≤ w ∧ w ≤ 0xFFFF) :
    w = pattern w +
      if (digit w 3).val = 0 then 0
      else if (digit w 3).val = 5 ∨ (digit w 3).val = 8 ∨ (digit w 3).val = 9 then
        (x w).val * 0x100 + (y w).val * 0x10
      else if (digit w 3).val = 0xE ∨ (digit w 3).val = 0xF then (x w).val * 0x100
      else (nnn w).val := by
  have hdigits := eq_digits hw
  have hselector := selector_eq hw
  have hpattern : pattern w = (digit w 3).val * 0x1000 + selector w := rfl
  have hx : (x w).val = (digit w 2).val := rfl
  have hy : (y w).val = (digit w 1).val := rfl
  have hnnn : (nnn w).val = (w % 4096).toNat := rfl
  rw [hpattern, hselector, hx, hy, hnnn]
  split_ifs <;> omega

end Word

namespace Instruction

/-- The instruction that a pattern selects, as a function of the word that has the operands. -/
def ofPattern? : Nat → Option (Word → Instruction)
  | 0x00E0 => some fun _ => clear
  | 0x00EE => some fun _ => ret
  | 0x1000 => some fun w => jump w.nnn
  | 0x2000 => some fun w => call w.nnn
  | 0x3000 => some fun w => skipIfByte w.x w.kk
  | 0x4000 => some fun w => skipUnlessByte w.x w.kk
  | 0x5000 => some fun w => skipIfEqual w.x w.y
  | 0x6000 => some fun w => loadByte w.x w.kk
  | 0x7000 => some fun w => addByte w.x w.kk
  | 0x8000 => some fun w => copy w.x w.y
  | 0x8001 => some fun w => or w.x w.y
  | 0x8002 => some fun w => and w.x w.y
  | 0x8003 => some fun w => xor w.x w.y
  | 0x8004 => some fun w => add w.x w.y
  | 0x8005 => some fun w => sub w.x w.y
  | 0x8006 => some fun w => shiftRight w.x w.y
  | 0x8007 => some fun w => subFrom w.x w.y
  | 0x800E => some fun w => shiftLeft w.x w.y
  | 0x9000 => some fun w => skipUnlessEqual w.x w.y
  | 0xA000 => some fun w => loadIndex w.nnn
  | 0xB000 => some fun w => jumpOffset w.nnn
  | 0xC000 => some fun w => random w.x w.kk
  | 0xD000 => some fun w => draw w.x w.y w.n
  | 0xE09E => some fun w => skipIfKey w.x
  | 0xE0A1 => some fun w => skipUnlessKey w.x
  | 0xF007 => some fun w => readDelay w.x
  | 0xF00A => some fun w => awaitKey w.x
  | 0xF015 => some fun w => setDelay w.x
  | 0xF018 => some fun w => setSound w.x
  | 0xF01E => some fun w => addIndex w.x
  | 0xF029 => some fun w => loadGlyph w.x
  | 0xF033 => some fun w => storeDecimal w.x
  | 0xF055 => some fun w => store w.x
  | 0xF065 => some fun w => load w.x
  | _ => none

variable {w : Word}

/-- A word whose pattern is in the table decodes as the table says. -/
theorem decode_of_pattern {f : Word → Instruction} (h : ofPattern? w.pattern = some f) :
    decode w = f w := by
  unfold ofPattern? at h
  split at h <;> cases h <;> rename_i hp <;>
    obtain ⟨hkind, hselector⟩ := Word.digits_of_pattern w hp <;>
    simp only [decode, hkind, hselector]

/-- A word whose pattern is not in the table is no instruction. -/
theorem decode_of_no_pattern (h : ofPattern? w.pattern = none) : decode w = unknown w := by
  have hpattern : Word.pattern w = (Word.digit w 3).val * 0x1000 + Word.selector w := rfl
  -- every other line of `decode` gives the pattern, some without the selector, which is zero then
  unfold decode
  split <;> first
    | rfl
    | rename_i hkind hselector
      simp [hpattern, hkind, hselector, ofPattern?] at h
    | rename_i hkind
      simp [hpattern, hkind, Word.selector_eq_zero w (by simp [hkind]), ofPattern?] at h

/-- No pattern of the table selects what is no instruction. -/
theorem ofPattern?_ne_unknown {p : Nat} {f : Word → Instruction} (h : ofPattern? p = some f)
    (v : Word) : f w ≠ unknown v := by
  unfold ofPattern? at h
  split at h <;> cases h <;> exact nofun

theorem decode_eq_unknown_iff_pattern {v : Word} :
    decode w = unknown v ↔ ofPattern? w.pattern = none ∧ v = w := by
  cases hp : ofPattern? w.pattern with
  | none =>
      rw [decode_of_no_pattern hp]
      simp [eq_comm]
  | some f =>
      rw [decode_of_pattern hp]
      simp [ofPattern?_ne_unknown hp]

/-- The state after a word that is looked up by its pattern, without being decoded. A word whose
pattern is not in the table is passed over. -/
def executePattern (w : Word) (s : State) : Except Fault State :=
  match ofPattern? w.pattern with
  | some f => (f w).execute s
  | none => .ok s

/-- The table of patterns and the decoder take the same operands from the word. -/
theorem execute_decode (w : Word) (s : State) : (decode w).execute s = executePattern w s := by
  unfold executePattern
  split
  · rename_i f h
    rw [decode_of_pattern h]
  · rename_i h
    rw [decode_of_no_pattern h, execute]

/-! ## Words of instructions -/

/-- The word of an instruction; a word that is none is its own. -/
def word : Instruction → Int
  | clear => 0x00E0
  | ret => 0x00EE
  | jump nnn => 0x1000 + nnn.val
  | call nnn => 0x2000 + nnn.val
  | skipIfByte x kk => 0x3000 + x.val * 0x100 + kk.toNat
  | skipUnlessByte x kk => 0x4000 + x.val * 0x100 + kk.toNat
  | skipIfEqual x y => 0x5000 + x.val * 0x100 + y.val * 0x10
  | loadByte x kk => 0x6000 + x.val * 0x100 + kk.toNat
  | addByte x kk => 0x7000 + x.val * 0x100 + kk.toNat
  | copy x y => 0x8000 + x.val * 0x100 + y.val * 0x10
  | or x y => 0x8001 + x.val * 0x100 + y.val * 0x10
  | and x y => 0x8002 + x.val * 0x100 + y.val * 0x10
  | xor x y => 0x8003 + x.val * 0x100 + y.val * 0x10
  | add x y => 0x8004 + x.val * 0x100 + y.val * 0x10
  | sub x y => 0x8005 + x.val * 0x100 + y.val * 0x10
  | shiftRight x y => 0x8006 + x.val * 0x100 + y.val * 0x10
  | subFrom x y => 0x8007 + x.val * 0x100 + y.val * 0x10
  | shiftLeft x y => 0x800E + x.val * 0x100 + y.val * 0x10
  | skipUnlessEqual x y => 0x9000 + x.val * 0x100 + y.val * 0x10
  | loadIndex nnn => 0xA000 + nnn.val
  | jumpOffset nnn => 0xB000 + nnn.val
  | random x kk => 0xC000 + x.val * 0x100 + kk.toNat
  | draw x y n => 0xD000 + x.val * 0x100 + y.val * 0x10 + n.val
  | skipIfKey x => 0xE09E + x.val * 0x100
  | skipUnlessKey x => 0xE0A1 + x.val * 0x100
  | readDelay x => 0xF007 + x.val * 0x100
  | awaitKey x => 0xF00A + x.val * 0x100
  | setDelay x => 0xF015 + x.val * 0x100
  | setSound x => 0xF018 + x.val * 0x100
  | addIndex x => 0xF01E + x.val * 0x100
  | loadGlyph x => 0xF029 + x.val * 0x100
  | storeDecimal x => 0xF033 + x.val * 0x100
  | store x => 0xF055 + x.val * 0x100
  | load x => 0xF065 + x.val * 0x100
  | unknown w => w

/-- A word of 16 bits is the word of its instruction. -/
theorem word_decode {w : Int} (hw : 0 ≤ w ∧ w ≤ 0xFFFF) : (decode w).word = w := by
  have hparts := Word.eq_pattern_add hw
  have hbyte := Word.nnn_eq_byte w
  have hdigits := Word.nnn_eq_digits w
  cases h : ofPattern? (Word.pattern w) with
  | none => rw [decode_of_no_pattern h, word]
  | some f =>
      rw [decode_of_pattern h]
      -- each line of the table gives the highest digit, and this the operands
      unfold ofPattern? at h
      split at h <;> cases h <;> rename_i hp <;>
        obtain ⟨hkind, _⟩ := Word.digits_of_pattern w hp <;>
        simp [hp, hkind] at hparts <;> simp only [word] <;> omega

end Instruction

end Chip8
