import Chip8.Config.Read
import Mathlib.Tactic.SplitIfs

set_option autoImplicit false

/-! # What reading a configuration ends in

A document that is read gives a valid configuration or a fault, and a host expects the fault to be
one of the configuration. Two faults are none. A section that is no mapping is not checked for, and
fails where its entries are looked up. And a fault whose wording has to spell an integer with too
many digits fails in the spelling.

The model stops at what resources a host has: a value is spelled however deeply its lists and
mappings are nested, while a host that spells them recursively may run out of stack on a very deep
one, and fail in the spelling as well.

Every reader is described by the same statement: what it gives is good, and otherwise its fault is
one of those that the document allows (`Ends`). The statements are put together along the binds of
the readers, from a single integer up to the document as a whole (`ofValue_valid_or_reported`).
-/

namespace Chip8

/-- Whether a fault is reported as one of the configuration. -/
def ConfigFault.isReported : ConfigFault → Bool
  | sectionNotMapping _ => false
  | tooManyDigits => false
  | _ => true

/-! ## Spelling the parts of a document -/

namespace Value

variable {entries : List (Value × Value)}

theorem entriesHaveSpelling_iff :
    entriesHaveSpelling entries = true ↔
      ∀ e ∈ entries, e.1.hasSpelling = true ∧ e.2.hasSpelling = true := by
  induction entries with
  | nil => simp [entriesHaveSpelling]
  | cons e rest ih =>
      obtain ⟨key, value⟩ := e
      simp [entriesHaveSpelling, ih]

theorem hasSpelling_map : (map entries).hasSpelling = entriesHaveSpelling entries := by
  rw [hasSpelling]

theorem haveSpelling_singleton (v : Value) : haveSpelling [v] = v.hasSpelling := by
  rw [haveSpelling, haveSpelling, Bool.and_true]

theorem haveSpelling_pair (v w : Value) :
    haveSpelling [v, w] = (v.hasSpelling && w.hasSpelling) := by
  rw [haveSpelling, haveSpelling_singleton]

theorem hasSpelling_of_entry {key value : Value} (h : (map [(key, value)]).hasSpelling = true) :
    key.hasSpelling = true ∧ value.hasSpelling = true := by
  rw [hasSpelling_map, entriesHaveSpelling_iff] at h
  exact h (key, value) (List.mem_singleton_self _)

theorem exists_mem_of_get? {name : String} {w : Value} (h : get? entries name = some w) :
    ∃ key, (key, w) ∈ entries := by
  rw [get?, Option.map_eq_some_iff] at h
  obtain ⟨⟨key, value⟩, hfind, rfl⟩ := h
  exact ⟨key, List.mem_of_find?_eq_some hfind⟩

theorem hasSpelling_of_get? {name : String} {w : Value} (h : get? entries name = some w)
    (hmap : (map entries).hasSpelling = true) : w.hasSpelling = true := by
  obtain ⟨key, hmem⟩ := exists_mem_of_get? h
  rw [hasSpelling_map] at hmap
  exact (entriesHaveSpelling_iff.1 hmap _ hmem).2

end Value

namespace Config

/-- What is promised of a configuration. The seed is an integer or none by its type. -/
structure Valid (c : Config) : Prop where
  cpuHz : 0 < c.cpuHz
  timerHz : 0 < c.timerHz
  stackDepth : 0 < c.stackDepth
  displayScale : 0 < c.displayScale
  background : 0 ≤ c.palette.background ∧ c.palette.background ≤ 255
  foreground : 0 ≤ c.palette.foreground ∧ c.palette.foreground ≤ 255
  keys : ∀ b ∈ c.keyMap, b.2.val ≤ 0xF

/-- The section `name` is there, and is no mapping. -/
def BadSection (entries : List (Value × Value)) (name : String) : Prop :=
  ∃ w, Value.get? entries name = some w ∧ ∀ inner, w ≠ .map inner

/-- What a reader gives is good, and a fault that it ends with is among those allowed. -/
def Ends {α : Type} (good : α → Prop) (allowed : ConfigFault → Prop)
    (r : Except ConfigFault α) : Prop :=
  match r with
  | .ok a => good a
  | .error e => allowed e

/-- The faults that a reader of the value `v` may end with when it looks up no section: those that
are reported, and the failure to spell a value that is not spelled. -/
def Foreseen (v : Value) (e : ConfigFault) : Prop :=
  e.isReported = true ∨ e = .tooManyDigits ∧ ¬ v.hasSpelling = true

/-- The sections of a configuration. -/
def sectionNames : List String := ["palette", "key_map"]

/-- The faults that a reader of a mapping may end with: those foreseen, and that one of the sections
is no mapping. -/
def Possible (entries : List (Value × Value)) (e : ConfigFault) : Prop :=
  Foreseen (.map entries) e ∨
    ∃ name ∈ sectionNames, e = .sectionNotMapping name ∧ BadSection entries name

section Ends

variable {α β : Type} {good : α → Prop} {goal : β → Prop} {allowed : ConfigFault → Prop}
  {r : Except ConfigFault α}

/-- Readers one after the other end as each of them does. -/
theorem Ends.bind {next : α → Except ConfigFault β} (h : Ends good allowed r)
    (hnext : ∀ a, good a → Ends goal allowed (next a)) : Ends goal allowed (r >>= next) := by
  cases r with
  | ok a => exact hnext a h
  | error e => exact h

theorem Ends.map {f : α → β} (h : Ends good allowed r) (hf : ∀ a, good a → goal (f a)) :
    Ends goal allowed (r.map f) := by
  cases r with
  | ok a => exact hf a h
  | error e => exact h

/-- What fails in the spelling of a part fails in that of the whole. -/
theorem Ends.of_part {v w : Value} (h : Ends good (Foreseen w) r)
    (hpart : v.hasSpelling = true → w.hasSpelling = true) : Ends good (Foreseen v) r := by
  cases r with
  | ok a => exact h
  | error e =>
      rcases h with hreported | ⟨hdigits, hw⟩
      · exact .inl hreported
      · exact .inr ⟨hdigits, fun hv => hw (hpart hv)⟩

/-- A reader that looks up no section, as one of the readers of a mapping. -/
theorem Ends.possible {entries : List (Value × Value)} (h : Ends good (Foreseen (.map entries)) r) :
    Ends good (Possible entries) r := by
  cases r with
  | ok a => exact h
  | error e => exact .inl h

end Ends

/-! ## Integers -/

/-- A fault that is reported ends as itself or in the failure to spell it. -/
theorem ends_refuse {α : Type} {good : α → Prop} {v : Value} {spelled : List Value}
    {fault : ConfigFault} (hfault : fault.isReported = true)
    (hpart : v.hasSpelling = true → Value.haveSpelling spelled = true) :
    Ends good (Foreseen v) (refuse spelled fault) := by
  by_cases hspelled : Value.haveSpelling spelled = true
  · rw [refuse, if_pos hspelled]
    exact .inl hfault
  · rw [refuse, if_neg hspelled]
    exact .inr ⟨rfl, fun hv => hspelled (hpart hv)⟩

theorem ends_integer (v : Value) : Ends (fun _ => True) (Foreseen v) (integer v) := by
  unfold integer
  cases v.toInteger? with
  | some n => trivial
  | none => exact ends_refuse rfl fun hv => by rw [Value.haveSpelling_singleton, hv]

theorem ends_positive (name : String) (v : Value) :
    Ends (fun n => 0 < n) (Foreseen v) (positive name v) := by
  refine (ends_integer v).bind fun n _ => ?_
  split_ifs with hn
  · exact ends_refuse rfl fun hv => by rw [Value.haveSpelling_singleton, hv]
  · show 0 < n.toNat
    omega

theorem ends_level (v : Value) :
    Ends (fun n => 0 ≤ n ∧ n ≤ 255) (Foreseen v) (level v) := by
  refine (ends_integer v).bind fun n _ => ?_
  split_ifs with hn
  · show 0 ≤ n ∧ n ≤ 255
    simp only [isByte, Bool.and_eq_true, decide_eq_true_eq] at hn
    omega
  · exact ends_refuse rfl fun hv => by rw [Value.haveSpelling_singleton, hv]

/-! ## The fields and sections of a mapping -/

variable {entries : List (Value × Value)} {name : String}

/-- A field ends as its reader does, and its default has to be as good. -/
theorem ends_field {α : Type} {good : α → Prop} {default : α} {read : Value → Except ConfigFault α}
    (hdefault : good default) (hread : ∀ w, Ends good (Foreseen w) (read w)) :
    Ends good (Foreseen (.map entries)) (field entries name default read) := by
  unfold field
  cases hget : Value.get? entries name with
  | none => exact hdefault
  | some w =>
      exact (hread w).of_part (Value.hasSpelling_of_get? hget)

/-- The entries of a section are spelled if those of the document are. -/
theorem ends_sectionEntries (hname : name ∈ sectionNames) :
    Ends (fun inner =>
        (Value.map entries).hasSpelling = true → (Value.map inner).hasSpelling = true)
      (Possible entries) (sectionEntries entries name) := by
  unfold sectionEntries
  cases hget : Value.get? entries name with
  | none => exact fun _ => rfl
  | some w =>
      cases w with
      | map inner => exact Value.hasSpelling_of_get? hget
      | _ => exact .inr ⟨name, hname, rfl, _, hget, by intro i h; cases h⟩

theorem sectionEntries_of_badSection (h : BadSection entries name) :
    sectionEntries entries name = .error (.sectionNotMapping name) := by
  obtain ⟨w, hget, hw⟩ := h
  unfold sectionEntries
  rw [hget]
  cases w with
  | map inner => exact absurd rfl (hw inner)
  | _ => rfl

theorem ends_readPalette (entries : List (Value × Value)) :
    Ends (fun p => (0 ≤ p.background ∧ p.background ≤ 255) ∧ 0 ≤ p.foreground ∧ p.foreground ≤ 255)
      (Possible entries) (readPalette entries) := by
  refine (ends_sectionEntries (by decide)).bind fun inner hinner => ?_
  have hlevel : ∀ (name : String) (default : Int), 0 ≤ default ∧ default ≤ 255 →
      Ends (fun n => 0 ≤ n ∧ n ≤ 255) (Possible entries) (field inner name default level) := by
    intro name default hdefault
    have hfield : Ends (fun n => 0 ≤ n ∧ n ≤ 255) (Foreseen (.map inner))
        (field inner name default level) := ends_field hdefault ends_level
    exact (hfield.of_part hinner).possible
  refine (hlevel "background" _ (by decide)).bind fun background hback => ?_
  refine (hlevel "foreground" _ (by decide)).bind fun foreground hfore => ?_
  exact ⟨hback, hfore⟩

/-! ## The key map -/

theorem ends_boundKey (host v : Value) :
    Ends (fun _ => True) (Foreseen (.map [(host, v)])) (boundKey host v) := by
  have hinteger : Ends (fun _ => True) (Foreseen (.map [(host, v)])) (integer v) :=
    (ends_integer v).of_part fun h => (Value.hasSpelling_of_entry h).2
  refine hinteger.bind fun n _ => ?_
  split_ifs with hn
  · trivial
  · refine ends_refuse rfl fun h => ?_
    obtain ⟨hhost, hv⟩ := Value.hasSpelling_of_entry h
    rw [Value.haveSpelling_pair, hv, hhost, Bool.and_self]

theorem ends_bindKey (b : Bindings Key) (host v : Value) (key : Key) :
    Ends (fun _ => True) (Foreseen (.map [(host, v)])) (bindKey b host key) := by
  unfold bindKey
  split_ifs with hspelled
  · trivial
  · exact .inr ⟨rfl, fun h => hspelled (Value.hasSpelling_of_entry h).1⟩

/-- The entries of the key map are bound one after the other, and each of them is a part of the
mapping. -/
theorem ends_bindAll (b : Bindings Key) :
    Ends (fun _ => True) (Foreseen (.map entries)) (bindAll b entries) := by
  induction entries generalizing b with
  | nil => trivial
  | cons e rest ih =>
      obtain ⟨host, v⟩ := e
      have hparts : (Value.map ((host, v) :: rest)).hasSpelling = true →
          (Value.map [(host, v)]).hasSpelling = true ∧ (Value.map rest).hasSpelling = true := by
        simp only [Value.hasSpelling_map, Value.entriesHaveSpelling_iff]
        intro h
        exact ⟨fun e he => h e (by simp_all), fun e he => h e (List.mem_cons_of_mem _ he)⟩
      -- a name that cannot be spelled fails behind the check of its key
      have hfirst : Ends (fun _ => True) (Foreseen (.map ((host, v) :: rest)))
          (boundKey host v >>= bindKey b host) := by
        refine Ends.of_part ?_ fun h => (hparts h).1
        exact (ends_boundKey host v).bind fun key _ => ends_bindKey b host v key
      rw [bindAll]
      cases hbind : (boundKey host v).bind (bindKey b host) with
      | error e =>
          rw [show boundKey host v >>= bindKey b host = .error e from hbind] at hfirst
          exact hfirst
      | ok b' => exact (ih b').of_part fun h => (hparts h).2

theorem ends_readKeyMap (entries : List (Value × Value)) :
    Ends (fun _ => True) (Possible entries) (readKeyMap entries) := by
  refine (ends_sectionEntries (by decide)).bind fun inner hinner => ?_
  exact ((ends_bindAll .usual).of_part hinner).possible

/-! ## The document -/

theorem ends_readSeed (entries : List (Value × Value)) :
    Ends (fun _ => True) (Foreseen (.map entries)) (readSeed entries) := by
  unfold readSeed
  cases hget : Value.get? entries "random_seed" with
  | none => trivial
  | some w =>
      have hw : Ends (fun _ => True) (Foreseen (.map entries)) ((integer w).map some) :=
        ((ends_integer w).of_part (Value.hasSpelling_of_get? hget)).map fun _ _ => trivial
      cases w with
      | null => trivial
      | _ => exact hw

theorem ends_ofEntries (entries : List (Value × Value)) :
    Ends Valid (Possible entries) (ofEntries entries) := by
  have hpositive : ∀ (name : String) (default : Nat), 0 < default →
      Ends (fun n => 0 < n) (Possible entries) (field entries name default (positive name)) :=
    fun name default hdefault => (ends_field hdefault (ends_positive name)).possible
  have hwrap : Ends (fun _ => True) (Foreseen (.map entries))
      (field entries "sprite_wrap" false fun v => .ok v.isTrue) :=
    ends_field trivial fun _ => trivial
  -- the sections and fields in the order in which they are read
  refine (ends_readPalette entries).bind fun palette hpalette => ?_
  refine (ends_readKeyMap entries).bind fun keyMap _ => ?_
  refine (hpositive "cpu_hz" _ (by decide)).bind fun cpuHz hcpu => ?_
  refine (hpositive "timer_hz" _ (by decide)).bind fun timerHz htimer => ?_
  refine hwrap.possible.bind fun spriteWrap _ => ?_
  refine (hpositive "stack_depth" _ (by decide)).bind fun stackDepth hdepth => ?_
  refine (ends_readSeed entries).possible.bind fun randomSeed _ => ?_
  refine (hpositive "display_scale" _ (by decide)).bind fun displayScale hscale => ?_
  have hkeys : ∀ b ∈ keyMap, b.2.val ≤ 0xF := fun b _ => Nat.le_of_lt_succ b.2.isLt
  exact ⟨hcpu, htimer, hdepth, hscale, hpalette.1, hpalette.2, hkeys⟩

theorem valid_of_ofValue {v : Value} {c : Config} (h : ofValue v = .ok c) : c.Valid := by
  cases v with
  | map entries =>
      have hends := ends_ofEntries entries
      rw [show ofEntries entries = .ok c from h] at hends
      exact hends
  | _ => cases h

/-- **What reading a configuration ends in.** Whatever the document is, either a valid configuration
is read, or the reading ends with a fault, and this is reported as one of the configuration but for
two: that a section is no mapping, and that an integer has too many digits to be spelled in the
wording of a fault. The second needs such an integer in the document. The first is certain for a
palette that is no mapping, and so it is for a key map behind a palette that is read. -/
theorem ofValue_valid_or_reported (v : Value) :
    (match ofValue v with
      | .ok c => c.Valid
      | .error e => e.isReported = true ∨ e = .tooManyDigits ∧ ¬ v.hasSpelling = true ∨
          ∃ entries, v = .map entries ∧ ∃ name ∈ sectionNames,
            e = .sectionNotMapping name ∧ BadSection entries name) ∧
    ∀ entries, v = .map entries →
      (BadSection entries "palette" → ofValue v = .error (.sectionNotMapping "palette")) ∧
      ∀ palette, readPalette entries = .ok palette → BadSection entries "key_map" →
        ofValue v = .error (.sectionNotMapping "key_map") := by
  constructor
  · cases v with
    | map entries =>
        have hends := ends_ofEntries entries
        show match ofEntries entries with | .ok c => c.Valid | .error e => _
        cases hread : ofEntries entries with
        | ok c =>
            rw [hread] at hends
            exact hends
        | error e =>
            rw [hread] at hends
            rcases hends with (hreported | hdigits) | hsection
            · exact .inl hreported
            · exact .inr (.inl hdigits)
            · exact .inr (.inr ⟨entries, rfl, hsection⟩)
    | _ => exact .inl rfl
  · rintro entries rfl
    constructor
    · intro hbad
      show ofEntries entries = _
      rw [ofEntries, readPalette, sectionEntries_of_badSection hbad]
      rfl
    · intro palette hpalette hbad
      show ofEntries entries = _
      rw [ofEntries, hpalette, readKeyMap, sectionEntries_of_badSection hbad]
      rfl

/-- A palette that is null fails, and not as a fault of the configuration. -/
theorem null_palette_not_reported :
    ∃ e, ofValue (.map [(.text "palette", .null)]) = .error e ∧ e.isReported = false :=
  ⟨.sectionNotMapping "palette", rfl, rfl⟩

end Config

end Chip8
