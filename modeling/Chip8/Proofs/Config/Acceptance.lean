import Chip8.Proofs.Config.Reading
import Mathlib.Data.List.Pairwise

set_option autoImplicit false

/-! # Which mappings are configurations, and of what

A mapping whose sections are mappings is read exactly if its values are acceptable (`Acceptable`)
and the names in its key map are spelled. The configuration that is read is described field by field
(`Describes`), and depends on nothing but the eight fields that there are: other fields do not
matter, and neither does the order (`ofValue_ok_iff_acceptable`).

What is refused is reported as a fault of the configuration, unless the wording would have to spell
an integer with too many digits. Such a fault is not reported (`long_negative_rate_not_reported`).
-/

namespace Chip8

/-! ## Fields of a mapping -/

namespace Value

variable {entries others : List (Value × Value)} {name : String}

/-- A mapping has no key twice. -/
def DistinctKeys (entries : List (Value × Value)) : Prop :=
  entries.Pairwise fun e f => e.1.sameKey f.1 = false

theorem sameKey_text {key : Value} : key.sameKey (.text name) = true ↔ key = .text name := by
  cases key <;> simp [sameKey, integer?]

/-- Two entries have no text in common as a key. -/
theorem DistinctKeys.texts (h : DistinctKeys entries) :
    entries.Pairwise fun e f => ∀ name, ¬ (e.1 = .text name ∧ f.1 = .text name) := by
  refine h.imp fun {e f} hsame name hboth => ?_
  rw [hboth.1, hboth.2] at hsame
  simp [sameKey] at hsame

theorem get?_eq_some {v : Value}
    (h : entries.Pairwise fun e f => ∀ name, ¬ (e.1 = .text name ∧ f.1 = .text name)) :
    get? entries name = some v ↔ (.text name, v) ∈ entries := by
  unfold get?
  induction entries with
  | nil => simp
  | cons e rest ih =>
      obtain ⟨hfirst, hrest⟩ := List.pairwise_cons.1 h
      rw [List.find?_cons]
      by_cases he : e.1 = .text name
      · rw [sameKey_text.2 he]
        have hnot : (Value.text name, v) ∉ rest := fun hmem => hfirst _ hmem name ⟨he, rfl⟩
        simp [hnot, Prod.ext_iff, he, eq_comm]
      · rw [Bool.eq_false_iff.2 fun hsame => he (sameKey_text.1 hsame), ih hrest]
        simp [Prod.ext_iff, Ne.symm he]

/-- The order of a mapping does not matter to its fields. -/
theorem get?_of_perm (h : DistinctKeys entries) (hperm : others.Perm entries) (name : String) :
    get? others name = get? entries name := by
  have hothers := (hperm.pairwise_iff fun {e f} hef name hboth => hef name hboth.symm).2 h.texts
  ext v
  rw [get?_eq_some h.texts, get?_eq_some hothers, hperm.mem_iff]

/-- An entry with another key does not matter to a field. -/
theorem get?_append_cons {e : Value × Value} (he : e.1 ≠ .text name) :
    get? (entries ++ e :: others) name = get? (entries ++ others) name := by
  have hsame : e.1.sameKey (.text name) = false :=
    Bool.eq_false_iff.2 fun hsame => he (sameKey_text.1 hsame)
  simp only [get?, List.find?_append, List.find?_cons, hsame]

/-- The integer that a field gives, or a default. -/
def integerOr (entries : List (Value × Value)) (name : String) (default : Int) : Int :=
  ((get? entries name).bind toInteger?).getD default

end Value

namespace Config

variable {entries : List (Value × Value)} {name : String}

/-- The fields of a configuration. -/
def fieldNames : List String :=
  ["palette", "key_map", "cpu_hz", "timer_hz", "sprite_wrap", "stack_depth", "random_seed",
    "display_scale"]

/-- What a mapping has to be to describe a configuration. -/
structure Acceptable (entries : List (Value × Value)) : Prop where
  levels : ∀ name ∈ ["background", "foreground"],
    ∀ v, Value.get? (Value.inner entries "palette") name = some v →
      ∃ n, v.toInteger? = some n ∧ 0 ≤ n ∧ n ≤ 255
  keys : ∀ e ∈ Value.inner entries "key_map", ∃ n, e.2.toInteger? = some n ∧ 0 ≤ n ∧ n ≤ 15
  positives : ∀ name ∈ ["cpu_hz", "timer_hz", "stack_depth", "display_scale"],
    ∀ v, Value.get? entries name = some v → ∃ n, v.toInteger? = some n ∧ 0 < n
  seed : ∀ v, Value.get? entries "random_seed" = some v → v = .null ∨ ∃ n, v.toInteger? = some n

/-- All names in the key map are spelled. -/
def NamesSpelled (entries : List (Value × Value)) : Prop :=
  ∀ e ∈ Value.inner entries "key_map", e.1.hasSpelling = true

/-- The configuration that a mapping describes, field by field: the value that is given, or the
default. In the key map a name stands for the value of the last entry that names it, and the usual
names that no entry names keep what they stand for. -/
structure Describes (entries : List (Value × Value)) (c : Config) : Prop where
  cpuHz : c.cpuHz = Value.integerOr entries "cpu_hz" 700
  timerHz : c.timerHz = Value.integerOr entries "timer_hz" 60
  spriteWrap : c.spriteWrap = ((Value.get? entries "sprite_wrap").map Value.isTrue).getD false
  stackDepth : c.stackDepth = Value.integerOr entries "stack_depth" 16
  randomSeed : c.randomSeed = (Value.get? entries "random_seed").bind Value.toInteger?
  displayScale : c.displayScale = Value.integerOr entries "display_scale" 10
  background : c.palette.background =
    Value.integerOr (Value.inner entries "palette") "background" 0xDD
  foreground : c.palette.foreground =
    Value.integerOr (Value.inner entries "palette") "foreground" 0x44
  keyMap : ∀ name, (c.keyMap.get? name).map (fun key => (key.val : Int)) =
    match Value.lastNamed? (Value.inner entries "key_map") name with
    | some v => v.toInteger?
    | none => (Bindings.usual.get? name).map fun key => (key.val : Int)
  namesOnce : (c.keyMap.map Prod.fst).Nodup
  usualNames : ∀ b ∈ Bindings.usual, (c.keyMap.get? b.1).isSome = true

/-! ## When the readers give a result -/

theorem readPalette_eq_ok (h : ¬ BadSection entries "palette") {p : Palette} :
    readPalette entries = .ok p ↔
      field (Value.inner entries "palette") "background" 0xDD level = .ok p.background ∧
      field (Value.inner entries "palette") "foreground" 0x44 level = .ok p.foreground := by
  unfold readPalette
  rw [sectionEntries_eq_ok h]
  constructor
  · intro hread
    obtain ⟨_, hinner, hread⟩ := bind_eq_ok.1 hread
    cases hinner
    obtain ⟨background, hback, hread⟩ := bind_eq_ok.1 hread
    obtain ⟨foreground, hfore, hread⟩ := bind_eq_ok.1 hread
    cases hread
    exact ⟨hback, hfore⟩
  · rintro ⟨hback, hfore⟩
    exact bind_eq_ok.2 ⟨_, rfl, bind_eq_ok.2 ⟨_, hback, bind_eq_ok.2 ⟨_, hfore, rfl⟩⟩⟩

/-- A field of integers gives the value that is there, or the default. -/
theorem integerOr_of_field {α : Type} {f : α → Int} {read : Value → Except ConfigFault α}
    (hread : ∀ v a, read v = .ok a → v.toInteger? = some (f a)) {default a : α}
    (h : field entries name default read = .ok a) :
    f a = Value.integerOr entries name (f default) := by
  unfold Value.integerOr
  rcases field_eq_ok.1 h with ⟨hnone, rfl⟩ | ⟨v, hsome, hv⟩
  · rw [hnone]
    rfl
  · rw [hsome, Option.bind_some, hread v a hv]
    rfl

theorem readSeed_eq_ok {seed : Option Int} : readSeed entries = .ok seed ↔
    (∀ v, Value.get? entries "random_seed" = some v → v = .null ∨ ∃ n, v.toInteger? = some n) ∧
      seed = (Value.get? entries "random_seed").bind Value.toInteger? := by
  have hinteger (v : Value) : (integer v).map some = .ok seed ↔
      (∃ n, v.toInteger? = some n) ∧ seed = v.toInteger? := by
    unfold integer
    cases v.toInteger? with
    | some n => simp [Except.map, eq_comm]
    | none => simp [Except.map, refuse]
  unfold readSeed
  cases Value.get? entries "random_seed" with
  | none => simp [eq_comm]
  | some v =>
      cases v with
      | null => simp [Value.toInteger?, eq_comm]
      | _ => simp [hinteger]

/-! ## Acceptance -/

theorem exists_level_iff {inner : List (Value × Value)} {default : Int} :
    (∃ n, field inner name default level = .ok n) ↔
      ∀ v, Value.get? inner name = some v → ∃ n, v.toInteger? = some n ∧ 0 ≤ n ∧ n ≤ 255 := by
  simp only [exists_field_eq_ok, level_eq_ok]

theorem exists_positive_iff {default : Nat} :
    (∃ n, field entries name default (positive name) = .ok n) ↔
      ∀ v, Value.get? entries name = some v → ∃ n, v.toInteger? = some n ∧ 0 < n := by
  simp only [exists_field_eq_ok, positive_eq_ok]
  refine forall₂_congr fun v _ => ⟨?_, ?_⟩
  · rintro ⟨n, hn, hpos⟩
    exact ⟨n, hn, by omega⟩
  · rintro ⟨n, hn, hpos⟩
    exact ⟨n.toNat, by rw [hn, Int.toNat_of_nonneg (by omega)], by omega⟩

theorem exists_key_iff {v : Value} :
    (∃ key, v.toKey? = some key) ↔ ∃ n, v.toInteger? = some n ∧ 0 ≤ n ∧ n ≤ 15 := by
  simp only [Value.toKey?_eq_some]
  constructor
  · rintro ⟨key, hkey⟩
    have hlt := key.isLt
    exact ⟨_, hkey, by omega, by omega⟩
  · rintro ⟨n, hn, hrange⟩
    exact ⟨⟨n.toNat, by omega⟩, by rw [hn, Int.toNat_of_nonneg (by omega)]⟩

/-- A mapping is read exactly if its values are acceptable and the names of its keys are spelled. -/
theorem exists_ofEntries_iff (hpalette : ¬ BadSection entries "palette")
    (hkeyMap : ¬ BadSection entries "key_map") :
    (∃ c, ofEntries entries = .ok c) ↔ Acceptable entries ∧ NamesSpelled entries := by
  have hkeys : (∃ b, bindAll .usual (Value.inner entries "key_map") = .ok b) ↔ _ :=
    exists_bindAll_eq_ok
  simp only [exists_key_iff, forall_and] at hkeys
  constructor
  · rintro ⟨c, hc⟩
    obtain ⟨hpal, hmap, hcpu, htimer, -, hdepth, hseed, hscale⟩ := ofEntries_eq_ok.1 hc
    obtain ⟨hback, hfore⟩ := (readPalette_eq_ok hpalette).1 hpal
    rw [readKeyMap_eq hkeyMap] at hmap
    obtain ⟨hvalues, hnames⟩ := hkeys.1 ⟨_, hmap⟩
    refine ⟨⟨?_, hvalues, ?_, (readSeed_eq_ok.1 hseed).1⟩, hnames⟩
    · simp only [List.forall_mem_cons, List.not_mem_nil, false_imp_iff, implies_true, and_true]
      exact ⟨exists_level_iff.1 ⟨_, hback⟩, exists_level_iff.1 ⟨_, hfore⟩⟩
    · simp only [List.forall_mem_cons, List.not_mem_nil, false_imp_iff, implies_true, and_true]
      exact ⟨exists_positive_iff.1 ⟨_, hcpu⟩, exists_positive_iff.1 ⟨_, htimer⟩,
        exists_positive_iff.1 ⟨_, hdepth⟩, exists_positive_iff.1 ⟨_, hscale⟩⟩
  · rintro ⟨⟨hlevels, hvalues, hpositives, hseed⟩, hnames⟩
    obtain ⟨background, hback⟩ := exists_level_iff.2 (hlevels "background" (by decide))
    obtain ⟨foreground, hfore⟩ := exists_level_iff.2 (hlevels "foreground" (by decide))
    obtain ⟨keyMap, hmap⟩ := hkeys.2 ⟨hvalues, hnames⟩
    obtain ⟨cpuHz, hcpu⟩ := exists_positive_iff.2 (hpositives "cpu_hz" (by decide))
    obtain ⟨timerHz, htimer⟩ := exists_positive_iff.2 (hpositives "timer_hz" (by decide))
    obtain ⟨stackDepth, hdepth⟩ := exists_positive_iff.2 (hpositives "stack_depth" (by decide))
    obtain ⟨displayScale, hscale⟩ := exists_positive_iff.2 (hpositives "display_scale" (by decide))
    obtain ⟨spriteWrap, hwrap⟩ :
        ∃ b, field entries "sprite_wrap" false (fun v => .ok v.isTrue) = .ok b :=
      exists_field_eq_ok.2 fun v _ => ⟨_, rfl⟩
    refine ⟨{ cpuHz, timerHz, spriteWrap, stackDepth, displayScale, keyMap
              randomSeed := (Value.get? entries "random_seed").bind Value.toInteger?
              palette := { background, foreground } }, ofEntries_eq_ok.2 ?_⟩
    rw [readKeyMap_eq hkeyMap]
    exact ⟨(readPalette_eq_ok hpalette).2 ⟨hback, hfore⟩, hmap, hcpu, htimer, hwrap, hdepth,
      readSeed_eq_ok.2 ⟨hseed, rfl⟩, hscale⟩

/-! ## The configuration that is read -/

/-- What a key map stands for, once it is read. -/
theorem describes_keyMap {inner : List (Value × Value)} {b : Bindings Key}
    (h : bindAll .usual inner = .ok b) (name : Points) :
    (b.get? name).map (fun key => (key.val : Int)) =
      match Value.lastNamed? inner name with
      | some v => v.toInteger?
      | none => (Bindings.usual.get? name).map fun key => (key.val : Int) := by
  rw [get?_bindAll h]
  cases hlast : Value.lastNamed? inner name with
  | none => rfl
  | some v =>
      obtain ⟨e, hmem, -, rfl⟩ := Value.exists_mem_of_lastNamed? hlast
      obtain ⟨⟨key, hkey⟩, -⟩ := exists_bindAll_eq_ok.1 ⟨b, h⟩ e hmem
      show e.2.toKey?.map _ = e.2.toInteger?
      rw [hkey, Value.toKey?_eq_some.1 hkey]
      rfl

/-- No name loses what it stands for. -/
theorem isSome_get?_bindAll {inner : List (Value × Value)} {b b' : Bindings Key}
    (h : bindAll b inner = .ok b') {name : Points} (hname : (b.get? name).isSome = true) :
    (b'.get? name).isSome = true := by
  refine bindAll_preserves (motive := fun b => (b.get? name).isSome = true) h hname ?_
  intro b host key hb
  rw [Bindings.get?_set]
  split
  · rfl
  · exact hb

theorem describes_of_ofEntries (hpalette : ¬ BadSection entries "palette")
    (hkeyMap : ¬ BadSection entries "key_map") {c : Config} (hc : ofEntries entries = .ok c) :
    Describes entries c := by
  have hpositive (name : String) (v : Value) (n : Nat) (h : positive name v = .ok n) :
      v.toInteger? = some (n : Int) := (positive_eq_ok.1 h).1
  have hlevel (v : Value) (n : Int) (h : level v = .ok n) : v.toInteger? = some n :=
    (level_eq_ok.1 h).1
  obtain ⟨hpal, hmap, hcpu, htimer, hwrap, hdepth, hseed, hscale⟩ := ofEntries_eq_ok.1 hc
  obtain ⟨hback, hfore⟩ := (readPalette_eq_ok hpalette).1 hpal
  rw [readKeyMap_eq hkeyMap] at hmap
  exact {
    cpuHz := integerOr_of_field (f := Nat.cast) (hpositive _) hcpu
    timerHz := integerOr_of_field (f := Nat.cast) (hpositive _) htimer
    spriteWrap := by
      rcases field_eq_ok.1 hwrap with ⟨hnone, hdefault⟩ | ⟨v, hsome, hv⟩
      · rw [hnone, ← hdefault]
        rfl
      · rw [hsome, ← Except.ok.inj hv]
        rfl
    stackDepth := integerOr_of_field (f := Nat.cast) (hpositive _) hdepth
    randomSeed := (readSeed_eq_ok.1 hseed).2
    displayScale := integerOr_of_field (f := Nat.cast) (hpositive _) hscale
    background := integerOr_of_field (f := id) hlevel hback
    foreground := integerOr_of_field (f := id) hlevel hfore
    keyMap := describes_keyMap hmap
    namesOnce := bindAll_preserves (motive := fun b => (b.map Prod.fst).Nodup) hmap (by decide)
      fun b host key hb => Bindings.nodup_names_set hb _ key
    usualNames := by
      intro b hb
      refine isSome_get?_bindAll hmap ?_
      revert b
      decide }

/-- Nothing matters but the fields. -/
theorem ofEntries_congr {others : List (Value × Value)}
    (h : ∀ name ∈ fieldNames, Value.get? others name = Value.get? entries name) :
    ofEntries others = ofEntries entries := by
  simp (disch := decide) only [ofEntries, readPalette, readKeyMap, readSeed, sectionEntries, field,
    h]

/-- A mapping that is spelled has its names spelled. -/
theorem namesSpelled_of_hasSpelling (h : (Value.map entries).hasSpelling = true) :
    NamesSpelled entries := by
  intro e he
  unfold Value.inner at he
  split at he
  · rename_i inner hget
    have hinner := Value.hasSpelling_of_get? hget h
    rw [Value.hasSpelling_map, Value.entriesHaveSpelling_iff] at hinner
    exact (hinner e he).1
  · cases he

/-- Without a section that is no mapping, what is refused is reported or cannot be spelled. -/
theorem reported_of_ofEntries (hpalette : ¬ BadSection entries "palette")
    (hkeyMap : ¬ BadSection entries "key_map") {e : ConfigFault}
    (h : ofEntries entries = .error e) :
    Foreseen (.map entries) e := by
  have hends := ends_ofEntries entries
  rw [h] at hends
  rcases hends with hforeseen | ⟨name, hname, -, hbad⟩
  · exact hforeseen
  · simp only [sectionNames, List.mem_cons, List.not_mem_nil, or_false] at hname
    rcases hname with rfl | rfl
    · exact absurd hbad hpalette
    · exact absurd hbad hkeyMap

/-- **Which mappings are configurations, and of what.** Let the palette and the key map of a mapping
be mappings themselves, if they are there. Then a configuration is read exactly if the values are
acceptable and the names in the key map are spelled, and a fault is reported as one of the
configuration unless an integer in the mapping has too many digits to be spelled; in a mapping that
is spelled, a configuration is read exactly if the values are acceptable, and every fault is
reported. What is read is described field by field, and is the same for all mappings with the same
eight fields: in any order, and whatever other fields there are. -/
theorem ofValue_ok_iff_acceptable (hpalette : ¬ BadSection entries "palette")
    (hkeyMap : ¬ BadSection entries "key_map") :
    ((∃ c, ofValue (.map entries) = .ok c) ↔ Acceptable entries ∧ NamesSpelled entries) ∧
    (∀ e, ofValue (.map entries) = .error e →
      e.isReported = true ∨ e = .tooManyDigits ∧ ¬ (Value.map entries).hasSpelling = true) ∧
    ((Value.map entries).hasSpelling = true →
      ((∃ c, ofValue (.map entries) = .ok c) ↔ Acceptable entries) ∧
      ∀ e, ofValue (.map entries) = .error e → e.isReported = true) ∧
    (∀ c, ofValue (.map entries) = .ok c → Describes entries c) ∧
    (∀ others, (∀ name ∈ fieldNames, Value.get? others name = Value.get? entries name) →
      ofValue (.map others) = ofValue (.map entries)) ∧
    (Value.DistinctKeys entries → ∀ others : List (Value × Value), others.Perm entries →
      ofValue (.map others) = ofValue (.map entries)) ∧
    ∀ (key v : Value) (before after : List (Value × Value)), entries = before ++ after →
      (∀ name ∈ fieldNames, key ≠ .text name) →
      ofValue (.map (before ++ (key, v) :: after)) = ofValue (.map entries) := by
  have haccept := exists_ofEntries_iff hpalette hkeyMap
  have hreported (e : ConfigFault) (he : ofEntries entries = .error e) :=
    reported_of_ofEntries hpalette hkeyMap he
  refine ⟨haccept, hreported, ?_, fun c => describes_of_ofEntries hpalette hkeyMap, ?_, ?_, ?_⟩
  · intro hspelled
    refine ⟨haccept.trans (and_iff_left (namesSpelled_of_hasSpelling hspelled)), fun e he => ?_⟩
    exact (hreported e he).resolve_right fun hdigits => hdigits.2 hspelled
  · intro others hothers
    exact ofEntries_congr hothers
  · intro hdistinct others hperm
    exact ofEntries_congr fun name _ => Value.get?_of_perm hdistinct hperm name
  · rintro key v before after rfl hkey
    exact ofEntries_congr fun name hname => Value.get?_append_cons (hkey name hname)

/-- Two entries of the key map give one name, and the last one counts; a third entry has a surrogate
for a key, and names it. -/
theorem ofValue_ok_iff_acceptable_for_one_name_twice :
    let entries : List (Value × Value) :=
      [(.text "key_map",
          .map [(.text "q", .int 1), (.text "Q", .text " 2 "), (.illFormed [0xD800], .int 3)]),
        (.text "timer_hz", .text "0x3C"), (.text "note", .null)]
    ¬ BadSection entries "palette" ∧ ¬ BadSection entries "key_map" ∧
      ∃ c, ofValue (.map entries) = .ok c ∧ c.timerHz = 60 ∧ c.cpuHz = 700 ∧
        (c.keyMap.get? (.ofText "Q")).map (fun key => (key.val : Int)) = some 2 ∧
        (c.keyMap.get? [0xD800]).map (fun key => (key.val : Int)) = some 3 ∧
        ofValue (.map entries.reverse) = .ok c := by
  intro entries
  have hpalette : ¬ BadSection entries "palette" := by
    rintro ⟨w, hget, -⟩
    cases hget
  have hkeyMap : ¬ BadSection entries "key_map" := by
    rintro ⟨w, hget, hw⟩
    cases hget
    exact hw _ rfl
  obtain ⟨haccept, -, -, hdescribes, -, hperm, -⟩ := ofValue_ok_iff_acceptable hpalette hkeyMap
  have hkeys : ∀ e ∈ Value.inner entries "key_map", e = (.text "q", .int 1) ∨
      e = (.text "Q", .text " 2 ") ∨ e = (.illFormed [0xD800], .int 3) := by
    intro e he
    change e ∈ [(Value.text "q", Value.int 1), (.text "Q", .text " 2 "),
      (.illFormed [0xD800], .int 3)] at he
    simpa only [List.mem_cons, List.not_mem_nil, or_false] using he
  have hacceptable : Acceptable entries := by
    refine ⟨fun name _ v hv => (Option.some_ne_none v hv.symm).elim, ?_, ?_,
      fun v hv => (Option.some_ne_none v hv.symm).elim⟩
    · intro e he
      rcases hkeys e he with rfl | rfl | rfl
      · exact ⟨1, rfl, by decide⟩
      · exact ⟨2, by decide +kernel, by decide⟩
      · exact ⟨3, rfl, by decide⟩
    · intro name hname v hv
      simp only [List.mem_cons, List.not_mem_nil, or_false] at hname
      rcases hname with rfl | rfl | rfl | rfl <;> cases hv
      exact ⟨60, by decide +kernel, by decide⟩
  have hnames : NamesSpelled entries := by
    intro e he
    rcases hkeys e he with rfl | rfl | rfl <;> rfl
  have hdistinct : Value.DistinctKeys entries := by
    unfold Value.DistinctKeys
    decide
  obtain ⟨c, hc⟩ := haccept.2 ⟨hacceptable, hnames⟩
  have hfields := hdescribes c hc
  refine ⟨hpalette, hkeyMap, c, hc, ?_, Int.ofNat.inj hfields.cpuHz, ?_, ?_, ?_⟩
  · have hrate : Value.integerOr entries "timer_hz" 60 = 60 := by decide +kernel
    exact Int.ofNat.inj (hfields.timerHz.trans hrate)
  · rw [hfields.keyMap]
    decide +kernel
  · rw [hfields.keyMap]
    decide +kernel
  · rw [hperm hdistinct _ entries.reverse_perm, hc]

/-- A negative rate that is not spelled fails in the wording of its fault. -/
theorem ofEntries_of_long_rate {n : Nat} (hn : Numeral.hasDecimal (-(n : Int)) = false) :
    ofEntries [(.text "cpu_hz", .int (-(n : Int)))] = .error .tooManyDigits := by
  have hpalette : readPalette [(.text "cpu_hz", .int (-(n : Int)))] = .ok {} := rfl
  have hkeyMap : readKeyMap [(.text "cpu_hz", .int (-(n : Int)))] = .ok .usual := rfl
  have hinteger : integer (.int (-(n : Int))) = .ok (-(n : Int)) := rfl
  have hrate : positive "cpu_hz" (.int (-(n : Int))) = .error .tooManyDigits := by
    have hspelled : (Value.int (-(n : Int))).hasSpelling = false := by rw [Value.hasSpelling, hn]
    unfold positive
    rw [hinteger]
    show (if -(n : Int) ≤ 0 then refuse _ _ else _) = _
    rw [if_pos (by omega), refuse, Value.haveSpelling_singleton, hspelled]
    rfl
  rw [ofEntries, hpalette, hkeyMap]
  show positive "cpu_hz" (.int (-(n : Int))) >>= _ = _
  rw [hrate]
  rfl

/-- A negative rate with too many digits is refused, and not as a fault of the configuration. -/
theorem long_negative_rate_not_reported :
    let entries : List (Value × Value) :=
      [(.text "cpu_hz", .int (-(Nat.pow 10 Numeral.maxDecimalDigits : Nat)))]
    ¬ BadSection entries "palette" ∧ ¬ BadSection entries "key_map" ∧
      ∃ e, ofValue (.map entries) = .error e ∧ e.isReported = false := by
  intro entries
  have habsent (name : String) (hget : Value.get? entries name = none) :
      ¬ BadSection entries name := by
    rintro ⟨w, hsome, -⟩
    rw [hget] at hsome
    cases hsome
  refine ⟨habsent _ rfl, habsent _ rfl, .tooManyDigits, ofEntries_of_long_rate ?_, rfl⟩
  rw [Numeral.hasDecimal, Int.natAbs_neg, Int.natAbs_natCast]
  exact decide_eq_false (Nat.lt_irrefl _)

end Config

end Chip8
