import Chip8.Instruction.Listing
import Chip8.Proofs.Instruction.Pattern
import Chip8.Proofs.Text.Radix
import Mathlib.Data.List.Basic

set_option autoImplicit false

/-! # Reading a listing back

The line of a listing says which instruction it is about: from the mnemonic and the operands the
instruction is read back (`ofListing?_operands`), and from the line the mnemonic and the operands
(`listing_of_text`), as no mnemonic has a space in it and no operand a comma.

Words that are written alike are therefore the same instruction, with the same effect, and words of
16 bits that are written alike are the same word (`listing_names_execution`).
-/

namespace Chip8

/-! ## Operands -/

/-- What an operand of a listing is. A name such as `DT`, or a number of one digit that nothing
stands in front of, is plain. -/
inductive Operand where
  | register (x : Reg)
  | number (n : Int)
  | address (nnn : Fin 4096)
  | plain (text : String)
deriving DecidableEq

namespace Operand

/-- The number of a register, or of rows, that a number gives. -/
def digit (n : Int) : Fin 16 := ⟨n.toNat % 16, Nat.mod_lt _ (by decide)⟩

/-- The address that a number gives. -/
def place (n : Int) : Fin 4096 := ⟨n.toNat % 4096, Nat.mod_lt _ (by decide)⟩

@[simp] theorem digit_val (n : Fin 16) : digit n.val = n := Fin.ext (Nat.mod_eq_of_lt n.isLt)

@[simp] theorem place_val (n : Fin 4096) : place n.val = n := Fin.ext (Nat.mod_eq_of_lt n.isLt)

/-- The operand that a text means: what it is, its first character says. -/
def ofText (text : String) : Operand :=
  match text.toList with
  | 'V' :: cs => (Radix.readSigned cs).elim (plain text) fun n => register (digit n)
  | '#' :: cs => (Radix.readSigned cs).elim (plain text) number
  | '$' :: cs => (Radix.readSigned cs).elim (plain text) fun n => address (place n)
  | _ => plain text

@[simp] theorem ofText_register (x : Reg) : ofText (Instruction.register x) = register x := by
  have htext : (Instruction.register x).toList = 'V' :: (Radix.upper 1 x.val).toList := by
    simp [Instruction.register]
  simp [ofText, htext, Radix.readSigned_upper]

@[simp] theorem ofText_number (width : Nat) (n : Int) :
    ofText ("#" ++ Radix.upper width n) = number n := by
  simp [ofText, Radix.readSigned_upper]

@[simp] theorem ofText_byte (kk : UInt8) : ofText (Instruction.byte kk) = number kk.toNat :=
  ofText_number 2 kk.toNat

@[simp] theorem ofText_address (nnn : Fin 4096) :
    ofText (Instruction.address nnn) = address nnn := by
  have htext : (Instruction.address nnn).toList = '$' :: (Radix.upper 3 nnn.val).toList := by
    simp [Instruction.address]
  simp [ofText, htext, Radix.readSigned_upper]

/-- A text that begins as no other operand is plain. -/
theorem ofText_plain {text : String} (h : text.toList.head? ∉ [some 'V', some '#', some '$']) :
    ofText text = plain text := by
  unfold ofText
  split
  case h_4 => rfl
  all_goals
    rename_i heq
    simp [heq] at h

/-- A digit is plain. -/
@[simp] theorem ofText_digit (n : Fin 16) :
    ofText (Radix.upper 1 n.val) = plain (Radix.upper 1 n.val) := by
  revert n
  decide +kernel

end Operand

namespace Instruction

/-- The instruction of two registers with a mnemonic. -/
def ofRegisters? (x y : Reg) : String → Option Instruction
  | "SE" => some (skipIfEqual x y)
  | "SNE" => some (skipUnlessEqual x y)
  | "LD" => some (copy x y)
  | "ADD" => some (add x y)
  | "OR" => some (or x y)
  | "AND" => some (and x y)
  | "XOR" => some (xor x y)
  | "SUB" => some (sub x y)
  | "SHR" => some (shiftRight x y)
  | "SUBN" => some (subFrom x y)
  | "SHL" => some (shiftLeft x y)
  | _ => none

/-- The instruction of a register and a byte with a mnemonic. -/
def ofRegisterByte? (x : Reg) (kk : UInt8) : String → Option Instruction
  | "SE" => some (skipIfByte x kk)
  | "SNE" => some (skipUnlessByte x kk)
  | "LD" => some (loadByte x kk)
  | "ADD" => some (addByte x kk)
  | "RND" => some (random x kk)
  | _ => none

/-- The instruction that loads a register from what a name means. -/
def ofSource? (x : Reg) : String → Option Instruction
  | "DT" => some (readDelay x)
  | "K" => some (awaitKey x)
  | "[I]" => some (load x)
  | _ => none

/-- The instruction that takes a register to what a name means. -/
def ofTarget? (x : Reg) : String → Option Instruction
  | "I" => some (addIndex x)
  | "DT" => some (setDelay x)
  | "ST" => some (setSound x)
  | "F" => some (loadGlyph x)
  | "B" => some (storeDecimal x)
  | "[I]" => some (store x)
  | _ => none

/-- The instruction with the given mnemonic and operands, if there is one. -/
def ofListing? (name : String) : List Operand → Option Instruction
  | [] => if name = "CLS" then some clear else some ret
  | [.register x] => if name = "SKP" then some (skipIfKey x) else some (skipUnlessKey x)
  | [.number w] => some (unknown w)
  | [.address nnn] => if name = "JP" then some (jump nnn) else some (call nnn)
  | [.register _, .address nnn] => some (jumpOffset nnn)
  | [.plain _, .address nnn] => some (loadIndex nnn)
  | [.register x, .number kk] => ofRegisterByte? x (UInt8.ofNat kk.toNat) name
  | [.register x, .register y] => ofRegisters? x y name
  | [.register x, .plain source] => ofSource? x source
  | [.plain target, .register x] => ofTarget? x target
  | [.register x, .register y, .plain n] =>
    (Radix.readSigned n.toList).map fun n => draw x y (Operand.digit n)
  | _ => none

/-- **An instruction is read back** from its mnemonic and its operands. -/
theorem ofListing?_operands (i : Instruction) :
    ofListing? i.mnemonic (i.operands.map Operand.ofText) = some i := by
  have hbase : Operand.ofText "V0" = .register jumpBase := Operand.ofText_register jumpBase
  cases i <;> simp [mnemonic, operands, ofListing?, ofRegisters?, ofRegisterByte?, ofSource?,
    ofTarget?, Radix.readSigned_upper, Operand.ofText_plain, hbase]

/-- Instructions that are written with the same mnemonic and the same operands are the same. -/
theorem eq_of_listing {i j : Instruction} (hmnemonic : i.mnemonic = j.mnemonic)
    (hoperands : i.operands = j.operands) : i = j := by
  have hread := ofListing?_operands i
  rw [hmnemonic, hoperands, ofListing?_operands j] at hread
  exact (Option.some.inj hread).symm

/-! ## Lines -/

section Separators

variable {α : Type} {a : α}

/-- What stands in front of the first separator, and what behind it, are found in a text. -/
theorem eq_of_append_cons {xs ys xs' ys' : List α} (hx : a ∉ xs) (hy : a ∉ ys)
    (h : xs ++ a :: xs' = ys ++ a :: ys') : xs = ys ∧ xs' = ys' := by
  rcases List.append_eq_append_iff.1 h with ⟨zs, rfl, hzs⟩ | ⟨zs, rfl, hzs⟩ <;> cases zs <;>
    simp_all

/-- Texts without a separator are found in the text that is made of them with separators. -/
theorem eq_of_intercalate {as : List α} {xs ys : List α} {xss yss : List (List α)}
    (hxs : ∀ x ∈ xs :: xss, a ∉ x) (hys : ∀ y ∈ ys :: yss, a ∉ y)
    (h : (a :: as).intercalate (xs :: xss) = (a :: as).intercalate (ys :: yss)) :
    xs :: xss = ys :: yss := by
  induction xss generalizing xs ys yss with
  | nil =>
      cases yss with
      | nil => simpa using h
      | cons ys' yss =>
          -- the text on the right has a separator
          have htext : xs = ys ++ a :: (as ++ (a :: as).intercalate (ys' :: yss)) := by
            simpa using h
          exact absurd (htext ▸ by simp) (hxs xs (by simp))
  | cons xs' xss ih =>
      cases yss with
      | nil =>
          have htext : xs ++ a :: (as ++ (a :: as).intercalate (xs' :: xss)) = ys := by
            simpa using h
          exact absurd (htext ▸ by simp) (hys ys (by simp))
      | cons ys' yss =>
          have hsplit : xs ++ a :: (as ++ (a :: as).intercalate (xs' :: xss)) =
              ys ++ a :: (as ++ (a :: as).intercalate (ys' :: yss)) := by simpa using h
          obtain ⟨rfl, hrest⟩ := eq_of_append_cons (hxs xs (by simp)) (hys ys (by simp)) hsplit
          rw [ih (fun x hx => hxs x (.tail _ hx)) (fun y hy => hys y (.tail _ hy))
            (List.append_cancel_left hrest)]

end Separators

theorem space_not_mem_mnemonic (i : Instruction) : ' ' ∉ i.mnemonic.toList := by
  cases i <;> simp [mnemonic]

theorem comma_not_mem_operands {i : Instruction} {t : String} (ht : t ∈ i.operands) :
    ',' ∉ t.toList := by
  have hcomma := Radix.comma_not_mem_upper
  cases i <;> simp [operands] at ht <;> rcases ht with rfl | rfl | rfl <;>
    simp [register, byte, address, hcomma]

theorem toList_text_of_nil {i : Instruction} (h : i.operands = []) :
    i.text.toList = i.mnemonic.toList := by
  simp [text, h]

theorem toList_text_of_cons {i : Instruction} {t : String} {ts : List String}
    (h : i.operands = t :: ts) :
    i.text.toList = i.mnemonic.toList ++
      ' ' :: [',', ' '].intercalate (t.toList :: ts.map String.toList) := by
  simp [text, h]

/-- **A line says the mnemonic and the operands** of the instruction. -/
theorem listing_of_text {i j : Instruction} (h : i.text = j.text) :
    i.mnemonic = j.mnemonic ∧ i.operands = j.operands := by
  have hi := space_not_mem_mnemonic i
  have hj := space_not_mem_mnemonic j
  have hchars := congrArg String.toList h
  cases hoi : i.operands with
  | nil =>
      rw [toList_text_of_nil hoi] at hchars
      cases hoj : j.operands with
      | nil =>
          rw [toList_text_of_nil hoj] at hchars
          exact ⟨String.toList_injective hchars, rfl⟩
      | cons u us =>
          rw [toList_text_of_cons hoj] at hchars
          exact absurd (hchars ▸ by simp) hi
  | cons t ts =>
      rw [toList_text_of_cons hoi] at hchars
      cases hoj : j.operands with
      | nil =>
          rw [toList_text_of_nil hoj] at hchars
          exact absurd (hchars ▸ by simp) hj
      | cons u us =>
          rw [toList_text_of_cons hoj] at hchars
          obtain ⟨hmnemonic, hoperands⟩ := eq_of_append_cons hi hj hchars
          have hcomma {k : Instruction} {t : String} {ts : List String}
              (hk : k.operands = t :: ts) : ∀ x ∈ t.toList :: ts.map String.toList, ',' ∉ x := by
            rw [← List.map_cons, ← hk]
            intro x hx
            obtain ⟨t, ht, rfl⟩ := List.mem_map.1 hx
            exact comma_not_mem_operands ht
          have hmap : (t :: ts).map String.toList = (u :: us).map String.toList :=
            eq_of_intercalate (hcomma hoi) (hcomma hoj) hoperands
          exact ⟨String.toList_injective hmnemonic,
            List.map_injective_iff.2 (fun _ _ => String.toList_injective) hmap⟩

/-! ## What a listing says about the words -/

theorem mnemonic_eq_unknown {w : Word} :
    (decode w).mnemonic = "UNKNOWN" ↔ ofPattern? w.pattern = none := by
  have hname (i : Instruction) : i.mnemonic = "UNKNOWN" ↔ ∃ v, i = unknown v := by
    cases i <;> simp [mnemonic]
  rw [hname]
  simp only [decode_eq_unknown_iff_pattern, exists_and_left, exists_eq, and_true]

/-- A word of 16 bits is found from its line. -/
theorem word_eq_of_text {v w : Word} (hv : 0 ≤ v ∧ v ≤ 0xFFFF) (hw : 0 ≤ w ∧ w ≤ 0xFFFF)
    (h : (decode v).text = (decode w).text) : v = w := by
  obtain ⟨hmnemonic, hoperands⟩ := listing_of_text h
  calc v = (decode v).word := (word_decode hv).symm
    _ = (decode w).word := by rw [eq_of_listing hmnemonic hoperands]
    _ = w := word_decode hw

/-- The words of a program are found from its lines. -/
theorem words_eq_of_texts {vs ws : List Word} (hvs : ∀ v ∈ vs, 0 ≤ v ∧ v ≤ 0xFFFF)
    (hws : ∀ w ∈ ws, 0 ≤ w ∧ w ≤ 0xFFFF)
    (h : vs.map (fun v => (decode v).text) = ws.map (fun w => (decode w).text)) : vs = ws := by
  induction vs generalizing ws with
  | nil => exact (List.map_eq_nil_iff.1 h.symm).symm
  | cons v vs ih =>
      cases ws with
      | nil => cases h
      | cons w ws =>
          obtain ⟨htext, htexts⟩ := List.cons.inj h
          rw [word_eq_of_text (hvs v (.head _)) (hws w (.head _)) htext,
            ih (fun v hv => hvs v (.tail _ hv)) (fun w hw => hws w (.tail _ hw)) htexts]

/-- **A listing names what is executed.** Two whole numbers whose instructions have the same
mnemonic and the same operands have the same effect in every state, and it is the effect that the
table of patterns gives them; the name `UNKNOWN` says that the pattern is not in the table, and such
a word changes nothing. Two words of 16 bits with the same line are equal, so that the lines of a
program determine its words. -/
theorem listing_names_execution :
    (∀ v w : Word, (decode v).mnemonic = (decode w).mnemonic →
      (decode v).operands = (decode w).operands →
      ∀ s, (decode v).execute s = (decode w).execute s) ∧
    (∀ (w : Word) (s : State), (decode w).execute s = executePattern w s) ∧
    (∀ w : Word, ((decode w).mnemonic = "UNKNOWN" ↔ ofPattern? w.pattern = none) ∧
      ((decode w).mnemonic = "UNKNOWN" → ∀ s, (decode w).execute s = .ok s)) ∧
    (∀ v w : Word, 0 ≤ v ∧ v ≤ 0xFFFF → 0 ≤ w ∧ w ≤ 0xFFFF →
      (decode v).text = (decode w).text → v = w) ∧
    ∀ vs ws : List Word, (∀ v ∈ vs, 0 ≤ v ∧ v ≤ 0xFFFF) → (∀ w ∈ ws, 0 ≤ w ∧ w ≤ 0xFFFF) →
      vs.map (fun v => (decode v).text) = ws.map (fun w => (decode w).text) → vs = ws := by
  refine ⟨?_, execute_decode, fun w => ⟨mnemonic_eq_unknown, ?_⟩, ?_, ?_⟩
  · intro v w hmnemonic hoperands s
    rw [eq_of_listing hmnemonic hoperands]
  · intro h s
    rw [decode_of_no_pattern (mnemonic_eq_unknown.1 h), execute]
  · intro v w hv hw h
    exact word_eq_of_text hv hw h
  · intro vs ws hvs hws h
    exact words_eq_of_texts hvs hws h

/-- A number above 16 bits is listed, and executed, as another one; `5121` is no instruction; and
the line `JP V0, $300` is that of one word. -/
theorem listing_names_execution_beyond_16_bits :
    ((decode 0x15121).mnemonic = (decode 0x5120).mnemonic ∧
      (decode 0x15121).operands = (decode 0x5120).operands ∧
      ∀ s, (decode 0x15121).execute s = (decode 0x5120).execute s) ∧
    (∀ s, (decode 0x15121).execute s = executePattern 0x15121 s) ∧
    ((decode 0x5121).mnemonic = "UNKNOWN" ∧ ofPattern? (Word.pattern 0x5121) = none ∧
      ∀ s, (decode 0x5121).execute s = .ok s) ∧
    (∀ w : Word, 0 ≤ w ∧ w ≤ 0xFFFF → (decode w).text = (decode 0xB300).text → w = 0xB300) ∧
    (∀ ws : List Word, (∀ w ∈ ws, 0 ≤ w ∧ w ≤ 0xFFFF) →
      ws.map (fun w => (decode w).text) = [0x6005, 0xB300].map (fun w => (decode w).text) →
      ws = [0x6005, 0xB300]) ∧
    (decode 0xB300).text = "JP V0, $300" := by
  obtain ⟨heffect, hpattern, hunknown, hword, hwords⟩ := listing_names_execution
  have hmnemonic : (decode 0x15121).mnemonic = (decode 0x5120).mnemonic := by decide +kernel
  have hoperands : (decode 0x15121).operands = (decode 0x5120).operands := by decide +kernel
  have hname : (decode 0x5121).mnemonic = "UNKNOWN" := by decide +kernel
  exact ⟨⟨hmnemonic, hoperands, heffect _ _ hmnemonic hoperands⟩, hpattern _,
    ⟨hname, (hunknown _).1.1 hname, (hunknown _).2 hname⟩,
    fun w hw => hword w _ hw (by decide), fun ws hws => hwords ws _ hws (by decide),
    by decide +kernel⟩

end Instruction

end Chip8
