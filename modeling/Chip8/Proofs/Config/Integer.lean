import Chip8.Proofs.Config.Acceptance
import Chip8.Proofs.Text.Malformed
import Mathlib.Data.List.Forall2

set_option autoImplicit false

/-! # The spellings of an integer

An integer in a configuration is given as a number or as one of its numerals (`Spells`). All of
these are the same integer to every reader, so that a configuration does not change when its
integers are spelled in another way (`toOption_ofEntries`). The one field that has to be left alone
is `sprite_wrap`, which is no integer: the number 0 counts as false there, and the text `0` as true.

What is compared is what a reader gives, faults aside (`toOption`): the wording of a fault spells
the value as it was given.
-/

namespace Chip8

namespace Value

/-- The spellings of an integer. -/
inductive Spells : Int → Value → Prop where
  | number (n : Int) : Spells n (.int n)
  | decimal {n : Int} {s : String} : Numeral.IsDecimal n s.toList → Spells n (.text s)
  | hexadecimal {n : Nat} {s : String} : Numeral.IsHexadecimal n s.toList → Spells n (.text s)

/-- A value with another spelling, if it spells an integer. -/
inductive Respelled : Value → Value → Prop where
  | same (v : Value) : Respelled v v
  | integer {n : Int} {v w : Value} : Spells n v → Spells n w → Respelled v w

/-- An entry of a section with the integer in another spelling. -/
def RespelledEntry (e f : Value × Value) : Prop := e.1 = f.1 ∧ Respelled e.2 f.2

/-- An entry of a configuration with its integers in another spelling. -/
inductive RespelledField : Value × Value → Value × Value → Prop where
  | same (e : Value × Value) : RespelledField e e
  | integer {key v w : Value} : key ≠ .text "sprite_wrap" → Respelled v w →
      RespelledField (key, v) (key, w)
  | inside {key : Value} {es fs : List (Value × Value)} : key ≠ .text "sprite_wrap" →
      List.Forall₂ RespelledEntry es fs → RespelledField (key, .map es) (key, .map fs)

theorem Spells.toInteger?_eq {n : Int} {v : Value} (h : Spells n v) : v.toInteger? = some n := by
  cases h with
  | number n => rfl
  | decimal hs => exact Numeral.parse?_of_isDecimal hs
  | hexadecimal hs => exact Numeral.parse?_of_isHexadecimal hs

theorem Respelled.toInteger?_eq {v w : Value} (h : Respelled v w) :
    v.toInteger? = w.toInteger? := by
  cases h with
  | same v => rfl
  | integer hv hw => rw [hv.toInteger?_eq, hw.toInteger?_eq]

theorem Respelled.toKey?_eq {v w : Value} (h : Respelled v w) : v.toKey? = w.toKey? := by
  rw [toKey?, toKey?, h.toInteger?_eq]

/-- A field in another spelling has the same key. -/
theorem RespelledField.key_eq {e f : Value × Value} (h : RespelledField e f) : e.1 = f.1 := by
  cases h <;> rfl

theorem RespelledField.toInteger?_eq {key v w : Value} (h : RespelledField (key, v) (key, w)) :
    v.toInteger? = w.toInteger? := by
  cases h with
  | same e => rfl
  | integer _ h => exact h.toInteger?_eq
  | inside _ _ => rfl

/-- Only integers are spelled otherwise in the field that is none. -/
theorem RespelledField.eq_of_wrap {v w : Value}
    (h : RespelledField (.text "sprite_wrap", v) (.text "sprite_wrap", w)) : v = w := by
  cases h with
  | same e => rfl
  | integer hkey _ => exact absurd rfl hkey
  | inside hkey _ => exact absurd rfl hkey

/-- The entries of a mapping. -/
def entries? : Value → Option (List (Value × Value))
  | map entries => some entries
  | _ => none

theorem RespelledField.entries?_rel {key v w : Value} (h : RespelledField (key, v) (key, w)) :
    Option.Rel (List.Forall₂ RespelledEntry) v.entries? w.entries? := by
  have hself (v : Value) : Option.Rel (List.Forall₂ RespelledEntry) v.entries? v.entries? := by
    cases v with
    | map es => exact .some (List.forall₂_same.2 fun e _ => ⟨rfl, .same e.2⟩)
    | _ => exact .none
  cases h with
  | same e => exact hself v
  | inside _ h => exact .some h
  | integer _ hvw =>
      cases hvw with
      | same v => exact hself v
      | integer hv hw => cases hv <;> cases hw <;> exact .none

/-- Entries with the same keys that are related give related fields. -/
theorem get?_rel {r : Value × Value → Value × Value → Prop} {es fs : List (Value × Value)}
    (h : List.Forall₂ r es fs) (hkey : ∀ {e f}, r e f → e.1 = f.1) (name : String) :
    Option.Rel (fun v w => r (.text name, v) (.text name, w)) (get? es name) (get? fs name) := by
  induction h with
  | nil => exact .none
  | @cons e f es fs hef h ih =>
      obtain ⟨key, v⟩ := e
      obtain ⟨key', w⟩ := f
      obtain rfl : key = key' := hkey hef
      unfold get? at ih ⊢
      rw [List.find?_cons, List.find?_cons]
      by_cases hname : key = .text name
      · rw [sameKey_text.2 hname]
        exact .some (hname ▸ hef)
      · rw [Bool.eq_false_iff.2 fun hsame => hname (sameKey_text.1 hsame)]
        exact ih

end Value

namespace Config

open Value

variable {α β : Type} {es fs : List (Value × Value)} {name : String} {v w host : Value}

/-! ## What the readers give, faults aside -/

theorem toOption_bind (x : Except ConfigFault α) (next : α → Except ConfigFault β) :
    (x >>= next).toOption = x.toOption.bind fun a => (next a).toOption := by
  cases x <;> rfl

theorem toOption_integer (v : Value) : (integer v).toOption = v.toInteger? := by
  unfold integer
  cases v.toInteger? <;> rfl

theorem toOption_positive (name : String) (v : Value) : (positive name v).toOption =
    v.toInteger?.bind fun n => if n ≤ 0 then none else some n.toNat := by
  rw [positive, toOption_bind, toOption_integer]
  congr 1
  funext n
  split_ifs <;> rfl

theorem toOption_level (v : Value) : (level v).toOption =
    v.toInteger?.bind fun n => if isByte n then some n else none := by
  rw [level, toOption_bind, toOption_integer]
  congr 1
  funext n
  split_ifs <;> rfl

theorem toOption_boundKey (host v : Value) : (boundKey host v).toOption = v.toKey? := by
  ext key
  rw [← @boundKey_eq_ok v host]
  constructor
  · exact eq_ok_of_toOption
  · intro h
    rw [h]
    rfl

theorem bind_congr_rel {r : α → α → Prop} {x y : Option α} {f g : α → Option β}
    (h : Option.Rel r x y) (hnext : ∀ {a b}, r a b → f a = g b) : x.bind f = y.bind g := by
  cases h with
  | none => rfl
  | some h => exact hnext h

/-- A field is read alike if its values are. -/
theorem toOption_field {r : Value → Value → Prop} {default : α}
    {read : Value → Except ConfigFault α} (h : Option.Rel r (get? es name) (get? fs name))
    (hread : ∀ {v w}, r v w → (read v).toOption = (read w).toOption) :
    (field es name default read).toOption = (field fs name default read).toOption := by
  unfold field
  generalize get? es name = x at h ⊢
  generalize get? fs name = y at h ⊢
  cases h with
  | none => rfl
  | some h => exact hread h

theorem toOption_sectionEntries (entries : List (Value × Value)) (name : String) :
    (sectionEntries entries name).toOption =
      (get? entries name).elim (some []) Value.entries? := by
  unfold sectionEntries
  cases get? entries name with
  | none => rfl
  | some v => cases v <;> rfl

/-! ## Configurations in other spellings -/

/-- A section stays one, with its entries in other spellings. -/
theorem sectionEntries_rel (h : List.Forall₂ RespelledField es fs) (name : String) :
    Option.Rel (List.Forall₂ RespelledEntry) (sectionEntries es name).toOption
      (sectionEntries fs name).toOption := by
  rw [toOption_sectionEntries, toOption_sectionEntries]
  have hrel := get?_rel h RespelledField.key_eq name
  generalize get? es name = x at hrel ⊢
  generalize get? fs name = y at hrel ⊢
  cases hrel with
  | none => exact .some .nil
  | some hfield => exact hfield.entries?_rel

/-- A key map is read entry by entry, and each entry gives the same key. -/
theorem toOption_bindAll (h : List.Forall₂ RespelledEntry es fs) (b : Bindings Key) :
    (bindAll b es).toOption = (bindAll b fs).toOption := by
  have hcons (b : Bindings Key) (host v : Value) (rest : List (Value × Value)) :
      bindAll b ((host, v) :: rest) =
        (boundKey host v >>= bindKey b host) >>= fun b => bindAll b rest := by
    show _ = ((boundKey host v).bind (bindKey b host)).bind fun b => bindAll b rest
    rw [bindAll]
    cases (boundKey host v).bind (bindKey b host) <;> rfl
  induction h generalizing b with
  | nil => rfl
  | @cons e f es fs hef h ih =>
      obtain ⟨host, v⟩ := e
      obtain ⟨host', w⟩ := f
      obtain ⟨rfl, hvw⟩ : host = host' ∧ Respelled v w := hef
      simp only [hcons, toOption_bind, toOption_boundKey, hvw.toKey?_eq, ih]

theorem toOption_readKeyMap (h : List.Forall₂ RespelledField es fs) :
    (readKeyMap es).toOption = (readKeyMap fs).toOption := by
  rw [readKeyMap, readKeyMap, toOption_bind, toOption_bind]
  exact bind_congr_rel (sectionEntries_rel h "key_map") fun hinner => toOption_bindAll hinner _

theorem toOption_readPalette (h : List.Forall₂ RespelledField es fs) :
    (readPalette es).toOption = (readPalette fs).toOption := by
  have hlevel {es fs : List (Value × Value)} (h : List.Forall₂ RespelledEntry es fs)
      (name : String) (default : Int) :
      (field es name default level).toOption = (field fs name default level).toOption :=
    toOption_field (get?_rel h And.left name) fun h => by
      rw [toOption_level, toOption_level, h.2.toInteger?_eq]
  rw [readPalette, readPalette, toOption_bind, toOption_bind]
  refine bind_congr_rel (sectionEntries_rel h "palette") fun hinner => ?_
  simp only [toOption_bind, hlevel hinner]

/-- The seed that a value gives; null is none. -/
def seed : Value → Except ConfigFault (Option Int)
  | .null => .ok none
  | v => (integer v).map some

theorem readSeed_eq_field (entries : List (Value × Value)) :
    readSeed entries = field entries "random_seed" none seed := by
  unfold readSeed field
  cases get? entries "random_seed" with
  | none => rfl
  | some v => cases v <;> rfl

theorem toOption_seed_of_spells {n : Int} (h : Spells n v) : (seed v).toOption = some (some n) := by
  have hmap (v : Value) : ((integer v).map some).toOption = v.toInteger?.map some := by
    rw [← toOption_integer]
    cases integer v <;> rfl
  have hread : v.toInteger?.map some = some (some n) := by rw [h.toInteger?_eq, Option.map_some]
  cases h with
  | number n => rfl
  | decimal hs => exact (hmap _).trans hread
  | hexadecimal hs => exact (hmap _).trans hread

theorem toOption_seed (h : RespelledField (.text "random_seed", v) (.text "random_seed", w)) :
    (seed v).toOption = (seed w).toOption := by
  cases h with
  | same e => rfl
  | inside _ _ => rfl
  | integer _ hvw =>
      cases hvw with
      | same v => rfl
      | integer hv hw => rw [toOption_seed_of_spells hv, toOption_seed_of_spells hw]

/-- **The spelling of its integers does not matter to a configuration.** -/
theorem toOption_ofEntries (h : List.Forall₂ RespelledField es fs) :
    (ofEntries es).toOption = (ofEntries fs).toOption := by
  have hrel (name : String) := get?_rel h RespelledField.key_eq name
  have hpositive (name : String) (default : Nat) :
      (field es name default (positive name)).toOption =
        (field fs name default (positive name)).toOption :=
    toOption_field (hrel name) fun h => by
      rw [toOption_positive, toOption_positive, h.toInteger?_eq]
  have hwrap (default : Bool) :
      (field es "sprite_wrap" default fun v => .ok v.isTrue).toOption =
        (field fs "sprite_wrap" default fun v => .ok v.isTrue).toOption :=
    toOption_field (hrel "sprite_wrap") fun h => by rw [h.eq_of_wrap]
  have hseed : (readSeed es).toOption = (readSeed fs).toOption := by
    rw [readSeed_eq_field, readSeed_eq_field]
    exact toOption_field (hrel "random_seed") toOption_seed
  simp only [ofEntries, toOption_bind, toOption_readPalette h, toOption_readKeyMap h, hpositive,
    hwrap, hseed]

theorem ofDocument_map (entries : List (Value × Value)) :
    ofDocument (.map entries) = ofEntries entries := by
  cases entries <;> rfl

/-! ## All spellings of an integer -/

/-- A text that denotes no integer is reported as such. -/
theorem integer_refused {s : String} (h : Numeral.parse? s = none) :
    integer (.text s) = .error (.notInteger (.text s)) := by
  have hread : (Value.text s).toInteger? = none := h
  rw [integer, hread, refuse, haveSpelling_singleton, hasSpelling_text, if_pos rfl]

/-- **Integers are read back as written.** Every spelling of an integer is read as this integer, and
its plain decimal and hexadecimal texts are among them. A configuration with its integers in other
spellings is the same configuration. Malformed texts are refused, and so are those with
surrogates. -/
theorem integers_read_back :
    (∀ (n : Int) (v : Value), Spells n v → integer v = .ok n) ∧
    (∀ n : Int, (Nat.toDigits 10 n.natAbs).length ≤ Numeral.maxDecimalDigits →
      Spells n (.text (toString n))) ∧
    (∀ n : Nat, Spells n (.text ("0x" ++ String.ofList (Nat.toDigits 16 n)))) ∧
    (∀ es fs : List (Value × Value), List.Forall₂ RespelledField es fs →
      (ofDocument (.map es)).toOption = (ofDocument (.map fs)).toOption) ∧
    (∀ s : String, Numeral.Malformed s.toList →
      integer (.text s) = .error (.notInteger (.text s))) ∧
    (∀ points : List Nat,
      integer (.illFormed points) = .error (.notInteger (.illFormed points))) := by
  refine ⟨fun n v h => integer_eq_ok.2 h.toInteger?_eq,
    fun n h => .decimal (Numeral.isDecimal_toString h),
    fun n => .hexadecimal (Numeral.isHexadecimal_toDigits n), fun es fs h => ?_,
    fun s h => integer_refused (Numeral.parse?_of_malformed h), fun points => rfl⟩
  rw [ofDocument_map, ofDocument_map]
  exact toOption_ofEntries h

/-- A decimal and a hexadecimal numeral that are not plain are read, in a configuration too, and a
numeral with a sign in front of its prefix is refused. -/
theorem integers_read_back_of_numerals :
    Numeral.IsDecimal (-7) "\t-0_07 ".toList ∧ integer (.text "\t-0_07 ") = .ok (-7) ∧
      Numeral.IsHexadecimal 255 "0X00_fF".toList ∧ integer (.text "0X00_fF") = .ok 255 ∧
      (ofDocument (.map [(.text "cpu_hz", .text "0X00_fF")])).toOption =
        (ofDocument (.map [(.text "cpu_hz", .int 255)])).toOption ∧
      Numeral.Malformed "-0x1".toList ∧
      integer (.text "-0x1") = .error (.notInteger (.text "-0x1")) := by
  have hdecimal : Numeral.IsDecimal (-7) (['\t'] ++ (['-'] ++ (['0', '_', '0', '7'] ++ [' ']))) :=
    .intro 2 (List.forall_mem_singleton.2 rfl) (.inr (.inr ⟨rfl, by decide⟩))
      (.underscore '0' (.next '0' (.last '7'))) (by decide) (List.forall_mem_singleton.2 rfl)
  have hhexadecimal : Numeral.IsHexadecimal 255 "0X00_fF".toList :=
    .intro 2 (.inr rfl) (.next '0' (.underscore '0' (.next 'f' (.last 'F')))) (by decide)
  have hmalformed : Numeral.Malformed ([] ++ '-' :: '0' :: 'x' :: ['1']) :=
    .marked (.inr (.inl rfl)) (.inl rfl)
  obtain ⟨hread, _, _, hsame, hrefused, _⟩ := integers_read_back
  refine ⟨hdecimal, hread _ _ (.decimal hdecimal), hhexadecimal,
    hread _ _ (.hexadecimal hhexadecimal), hsame _ _ (.cons ?_ .nil), hmalformed,
    hrefused _ hmalformed⟩
  exact .integer (by simp) (.integer (.hexadecimal hhexadecimal) (.number 255))

end Config

end Chip8
