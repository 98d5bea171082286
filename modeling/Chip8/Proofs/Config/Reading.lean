import Chip8.Proofs.Config.Validity
import Mathlib.Data.List.Nodup

set_option autoImplicit false

/-! # What the readers of a configuration give

For each reader it is said when it gives a result, and which: those of single values
(`integer_eq_ok`, `positive_eq_ok`, `level_eq_ok`, `boundKey_eq_ok`), those of fields
(`exists_field_eq_ok`), that of the key map and that of the document (`ofEntries_eq_ok`).

A key map is read entry by entry, and the bindings of its entries are set one after the other, so
that a name stands for the value of the last entry that names it (`get?_bindAll`).
-/

namespace Chip8

namespace Value

/-- The key of the keypad that a value gives. -/
def toKey? (v : Value) : Option Key :=
  v.toInteger?.bind fun n => (Key.ofValue (.int n)).toOption

theorem toKey?_eq_some {v : Value} {key : Key} :
    v.toKey? = some key ↔ v.toInteger? = some (key.val : Int) := by
  unfold toKey?
  rw [Option.bind_eq_some_iff]
  constructor
  · rintro ⟨n, hn, hkey⟩
    unfold Key.ofValue at hkey
    dsimp only at hkey
    split_ifs at hkey with hrange
    · cases hkey
      rw [hn, Int.toNat_of_nonneg hrange.1]
    · cases hkey
  · intro h
    have hkey := key.isLt
    exact ⟨key.val, h, by rw [Key.ofValue, dif_pos (by omega)]; rfl⟩

/-- The entries of a mapping inside a mapping; one that is absent has none. -/
def inner (entries : List (Value × Value)) (name : String) : List (Value × Value) :=
  match get? entries name with
  | some (.map inner) => inner
  | _ => []

/-- The value of the last entry whose key gives a name. -/
def lastNamed? (entries : List (Value × Value)) (name : Points) : Option Value :=
  (entries.reverse.find? fun e => e.1.hostName = name).map Prod.snd

theorem lastNamed?_cons (e : Value × Value) (entries : List (Value × Value)) (name : Points) :
    lastNamed? (e :: entries) name =
      (lastNamed? entries name).or (if e.1.hostName = name then some e.2 else none) := by
  unfold lastNamed?
  rw [List.reverse_cons, List.find?_append, Option.map_or]
  by_cases h : e.1.hostName = name <;> simp [h]

theorem exists_mem_of_lastNamed? {entries : List (Value × Value)} {name : Points} {v : Value}
    (h : lastNamed? entries name = some v) :
    ∃ e ∈ entries, e.1.hostName = name ∧ e.2 = v := by
  rw [lastNamed?, Option.map_eq_some_iff] at h
  obtain ⟨e, hfind, hv⟩ := h
  exact ⟨e, List.mem_reverse.1 (List.mem_of_find?_eq_some hfind),
    by simpa using List.find?_some hfind, hv⟩

end Value

namespace Config

variable {α β : Type}

theorem bind_eq_ok {r : Except ConfigFault α} {next : α → Except ConfigFault β} {b : β} :
    r >>= next = .ok b ↔ ∃ a, r = .ok a ∧ next a = .ok b := by
  cases r <;> simp [bind, Except.bind]

theorem eq_ok_of_toOption {r : Except ConfigFault α} {a : α} (h : r.toOption = some a) :
    r = .ok a := by
  cases r with
  | ok b => exact congrArg Except.ok (Option.some.inj h)
  | error e => cases h

theorem refuse_ne_ok {spelled : List Value} {fault : ConfigFault} {a : α} :
    refuse spelled fault ≠ .ok a := by
  unfold refuse
  exact nofun

/-! ## Single values -/

variable {v : Value}

theorem integer_eq_ok {n : Int} : integer v = .ok n ↔ v.toInteger? = some n := by
  unfold integer
  cases v.toInteger? with
  | some m => simp
  | none => simp [refuse_ne_ok]

theorem positive_eq_ok {name : String} {n : Nat} :
    positive name v = .ok n ↔ v.toInteger? = some (n : Int) ∧ 0 < n := by
  unfold positive
  rw [bind_eq_ok]
  simp only [integer_eq_ok]
  constructor
  · rintro ⟨m, hm, hn⟩
    split_ifs at hn with hle
    · exact absurd hn refuse_ne_ok
    · cases hn
      exact ⟨by rw [hm, Int.toNat_of_nonneg (by omega)], by omega⟩
  · rintro ⟨hm, hn⟩
    exact ⟨n, hm, by rw [if_neg (by omega)]; rfl⟩

theorem level_eq_ok {n : Int} : level v = .ok n ↔ v.toInteger? = some n ∧ 0 ≤ n ∧ n ≤ 255 := by
  have hbyte (m : Int) : isByte m = true ↔ 0 ≤ m ∧ m ≤ 255 := by simp [isByte]
  unfold level
  rw [bind_eq_ok]
  simp only [integer_eq_ok, hbyte]
  constructor
  · rintro ⟨m, hm, hn⟩
    split_ifs at hn with hrange
    · cases hn
      exact ⟨hm, hrange⟩
    · exact absurd hn refuse_ne_ok
  · rintro ⟨hm, hrange⟩
    exact ⟨n, hm, by rw [if_pos hrange]; rfl⟩

theorem boundKey_eq_ok {host : Value} {key : Key} :
    boundKey host v = .ok key ↔ v.toKey? = some key := by
  unfold boundKey
  rw [bind_eq_ok, Value.toKey?_eq_some]
  simp only [integer_eq_ok]
  constructor
  · rintro ⟨n, hn, hkey⟩
    split_ifs at hkey with hrange
    · cases hkey
      rw [hn, Int.toNat_of_nonneg hrange.1]
    · exact absurd hkey refuse_ne_ok
  · intro h
    have hkey := key.isLt
    exact ⟨key.val, h, by rw [dif_pos (by omega)]; rfl⟩

/-! ## Fields -/

section Field

variable {entries : List (Value × Value)} {name : String} {default a : α}
  {read : Value → Except ConfigFault α}

theorem field_eq_ok : field entries name default read = .ok a ↔
    (Value.get? entries name = none ∧ default = a) ∨
      ∃ w, Value.get? entries name = some w ∧ read w = .ok a := by
  unfold field
  cases Value.get? entries name <;> simp

/-- A field is read unless it is there and its value is refused. -/
theorem exists_field_eq_ok : (∃ a, field entries name default read = .ok a) ↔
    ∀ w, Value.get? entries name = some w → ∃ a, read w = .ok a := by
  simp only [field_eq_ok]
  cases Value.get? entries name <;> simp

end Field

/-! ## The key map -/

theorem bindKey_eq_ok {b b' : Bindings Key} {host : Value} {key : Key} :
    bindKey b host key = .ok b' ↔ host.hasSpelling = true ∧ b.set host.hostName key = b' := by
  unfold bindKey
  split_ifs with hspelled <;> simp [hspelled]

section KeyMap

variable {entries : List (Value × Value)} {b b' : Bindings Key}

/-- A key map is read entry by entry. -/
theorem bindAll_cons_eq_ok {e : Value × Value} : bindAll b (e :: entries) = .ok b' ↔
    ∃ key, e.2.toKey? = some key ∧ e.1.hasSpelling = true ∧
      bindAll (b.set e.1.hostName key) entries = .ok b' := by
  have hentry {b₁ : Bindings Key} : (boundKey e.1 e.2).bind (bindKey b e.1) = .ok b₁ ↔
      ∃ key, e.2.toKey? = some key ∧ e.1.hasSpelling = true ∧ b.set e.1.hostName key = b₁ := by
    show boundKey e.1 e.2 >>= bindKey b e.1 = .ok b₁ ↔ _
    simp only [bind_eq_ok, boundKey_eq_ok, bindKey_eq_ok]
  rw [bindAll]
  cases hbind : (boundKey e.1 e.2).bind (bindKey b e.1) with
  | error fault =>
      constructor
      · intro h
        cases h
      · rintro ⟨key, hkey, hspelled, _⟩
        rw [hentry.2 ⟨key, hkey, hspelled, rfl⟩] at hbind
        cases hbind
  | ok b₁ =>
      obtain ⟨key, hkey, hspelled, rfl⟩ := hentry.1 hbind
      simp [hkey, hspelled]

/-- A key map is read if all its values give keys and all its names are spelled. -/
theorem exists_bindAll_eq_ok : (∃ b', bindAll b entries = .ok b') ↔
    ∀ e ∈ entries, (∃ key, e.2.toKey? = some key) ∧ e.1.hasSpelling = true := by
  induction entries generalizing b with
  | nil => simp [bindAll]
  | cons e rest ih =>
      simp only [bindAll_cons_eq_ok, List.forall_mem_cons]
      constructor
      · rintro ⟨b', key, hkey, hspelled, hrest⟩
        exact ⟨⟨⟨key, hkey⟩, hspelled⟩, ih.1 ⟨b', hrest⟩⟩
      · rintro ⟨⟨⟨key, hkey⟩, hspelled⟩, hrest⟩
        obtain ⟨b', hb'⟩ := ih.2 hrest
        exact ⟨b', key, hkey, hspelled, hb'⟩

/-- What the binding of a name preserves, the reading of a key map does. -/
theorem bindAll_preserves {motive : Bindings Key → Prop} (h : bindAll b entries = .ok b')
    (hb : motive b)
    (hset : ∀ b host key, motive b → motive (b.set (UpperCase.ofPoints host) key)) : motive b' := by
  induction entries generalizing b with
  | nil =>
      cases h
      exact hb
  | cons e rest ih =>
      obtain ⟨key, _, _, hrest⟩ := bindAll_cons_eq_ok.1 h
      exact ih hrest (hset _ _ _ hb)

/-- **What a name stands for** when a key map was read: for the value of the last entry that names
it, or for what it stood for before. -/
theorem get?_bindAll (h : bindAll b entries = .ok b') (name : Points) :
    b'.get? name = match Value.lastNamed? entries name with
      | some v => v.toKey?
      | none => b.get? name := by
  induction entries generalizing b with
  | nil =>
      cases h
      rfl
  | cons e rest ih =>
      obtain ⟨key, hkey, _, hrest⟩ := bindAll_cons_eq_ok.1 h
      rw [ih hrest, Value.lastNamed?_cons]
      cases Value.lastNamed? rest name with
      | some v => rfl
      | none =>
          by_cases hname : e.1.hostName = name
          · simp [hname, hkey, Bindings.get?_set]
          · simp [hname, Bindings.get?_set]

end KeyMap

/-! ## The document -/

section Document

variable {entries : List (Value × Value)} {name : String}

theorem sectionEntries_eq_ok (h : ¬ BadSection entries name) :
    sectionEntries entries name = .ok (Value.inner entries name) := by
  unfold sectionEntries Value.inner
  cases hget : Value.get? entries name with
  | none => rfl
  | some w =>
      cases w with
      | map inner => rfl
      | _ => exact absurd ⟨_, hget, by simp⟩ h

theorem readKeyMap_eq (h : ¬ BadSection entries "key_map") :
    readKeyMap entries = bindAll .usual (Value.inner entries "key_map") := by
  unfold readKeyMap
  rw [sectionEntries_eq_ok h]
  rfl

/-- A configuration is read if each of its parts is. -/
theorem ofEntries_eq_ok {c : Config} : ofEntries entries = .ok c ↔
    readPalette entries = .ok c.palette ∧ readKeyMap entries = .ok c.keyMap ∧
      field entries "cpu_hz" 700 (positive "cpu_hz") = .ok c.cpuHz ∧
      field entries "timer_hz" 60 (positive "timer_hz") = .ok c.timerHz ∧
      field entries "sprite_wrap" false (fun v => .ok v.isTrue) = .ok c.spriteWrap ∧
      field entries "stack_depth" 16 (positive "stack_depth") = .ok c.stackDepth ∧
      readSeed entries = .ok c.randomSeed ∧
      field entries "display_scale" 10 (positive "display_scale") = .ok c.displayScale := by
  unfold ofEntries
  constructor
  · intro h
    obtain ⟨palette, hpalette, h⟩ := bind_eq_ok.1 h
    obtain ⟨keyMap, hkeyMap, h⟩ := bind_eq_ok.1 h
    obtain ⟨cpuHz, hcpu, h⟩ := bind_eq_ok.1 h
    obtain ⟨timerHz, htimer, h⟩ := bind_eq_ok.1 h
    obtain ⟨spriteWrap, hwrap, h⟩ := bind_eq_ok.1 h
    obtain ⟨stackDepth, hdepth, h⟩ := bind_eq_ok.1 h
    obtain ⟨randomSeed, hseed, h⟩ := bind_eq_ok.1 h
    obtain ⟨displayScale, hscale, h⟩ := bind_eq_ok.1 h
    cases h
    exact ⟨hpalette, hkeyMap, hcpu, htimer, hwrap, hdepth, hseed, hscale⟩
  · rintro ⟨hpalette, hkeyMap, hcpu, htimer, hwrap, hdepth, hseed, hscale⟩
    exact bind_eq_ok.2 ⟨_, hpalette, bind_eq_ok.2 ⟨_, hkeyMap, bind_eq_ok.2 ⟨_, hcpu,
      bind_eq_ok.2 ⟨_, htimer, bind_eq_ok.2 ⟨_, hwrap, bind_eq_ok.2 ⟨_, hdepth,
      bind_eq_ok.2 ⟨_, hseed, bind_eq_ok.2 ⟨_, hscale, rfl⟩⟩⟩⟩⟩⟩⟩⟩

end Document

end Config

namespace Bindings

variable {α : Type}

theorem names_set (b : Bindings α) (name : Points) (value : α) :
    (b.set name value).map Prod.fst =
      if name ∈ b.map Prod.fst then b.map Prod.fst else b.map Prod.fst ++ [name] := by
  induction b with
  | nil => rfl
  | cons e rest ih =>
      rw [set]
      by_cases he : e.1 = name
      · simp [he]
      · rw [if_neg he, List.map_cons, ih]
        by_cases hmem : name ∈ rest.map Prod.fst <;> simp [hmem, Ne.symm he]

/-- Every name stays bound once. -/
theorem nodup_names_set {b : Bindings α} (h : (b.map Prod.fst).Nodup) (name : Points) (value : α) :
    ((b.set name value).map Prod.fst).Nodup := by
  rw [names_set]
  split_ifs with hmem
  · exact h
  · exact List.nodup_append.2 ⟨h, List.nodup_singleton _, by grind⟩

end Bindings

end Chip8
