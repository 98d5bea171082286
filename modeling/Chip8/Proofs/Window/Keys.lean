import Chip8.Proofs.Config.Reading
import Chip8.Proofs.Machine.Catch
import Chip8.Proofs.Text.UpperCase
import Chip8.Proofs.Window.Controls

set_option autoImplicit false

/-! # From the names of host keys to the keypad

Names are brought to capitals three times: where a configuration is read, where a window takes its
bindings from it, and where the text of a key is looked up. The second time changes nothing
(`capitalized_keyMap`), since the names in a configuration are in capitals, and each is bound once.
So a text stands for what the last entry gives that names it in capitals (`meaning?_of_lastNamed?`).

The toolkit delivers key events to a window (`KeyEvent`). What an event does to the machine is a
setting of one key, or nothing (`KeyEvent.setting?`), and the keypad is what the settings make of it
(`isDown_respondAll`).
-/

namespace Chip8

/-! ## Bindings in capitals -/

namespace Bindings

variable {α : Type} {b : Bindings α}

theorem set_of_not_mem {name : Points} (h : name ∉ b.map Prod.fst) (value : α) :
    b.set name value = b ++ [(name, value)] := by
  induction b with
  | nil => rfl
  | cons e rest ih =>
      rw [List.map_cons, List.mem_cons, not_or] at h
      rw [set, if_neg fun he => h.1 he.symm, ih h.2, List.cons_append]

/-- The names of bindings are in capitals, and each is bound once. -/
structure InCapitals (b : Bindings α) : Prop where
  once : (b.map Prod.fst).Nodup
  capitals : ∀ name ∈ b.map Prod.fst, UpperCase.ofPoints name = name

theorem InCapitals.set (h : b.InCapitals) (host : Points) (value : α) :
    (b.set (UpperCase.ofPoints host) value).InCapitals := by
  refine ⟨nodup_names_set h.once _ value, fun name hname => ?_⟩
  rw [names_set] at hname
  split at hname
  · exact h.capitals name hname
  · rcases List.mem_append.1 hname with hold | hnew
    · exact h.capitals name hold
    · rw [List.mem_singleton.1 hnew, UpperCase.ofPoints_ofPoints]

theorem inCapitals_usual : usual.InCapitals := ⟨by decide, by decide +kernel⟩

/-- Bindings in capitals stay as they are. -/
theorem InCapitals.capitalized_eq (h : b.InCapitals) : b.capitalized = b := by
  have hfold : ∀ (b acc : Bindings α), (acc ++ b).InCapitals →
      b.foldl (fun acc e => acc.set (UpperCase.ofPoints e.1) e.2) acc = acc ++ b := by
    intro b
    induction b with
    | nil => exact fun acc _ => (List.append_nil acc).symm
    | cons e rest ih =>
        intro acc hacc
        have hname : UpperCase.ofPoints e.1 = e.1 := hacc.capitals e.1 (by simp)
        have hnew : e.1 ∉ acc.map Prod.fst := by
          have honce := hacc.once
          rw [List.map_append, List.map_cons, List.nodup_append] at honce
          exact fun hmem => honce.2.2 _ hmem _ (.head _) rfl
        rw [List.foldl_cons, hname, set_of_not_mem hnew, ih _ (by simpa using hacc)]
        simp
  exact hfold b [] h

theorem meaning?_of_ne_nil {text : Points} (h : text ≠ []) :
    b.meaning? text = b.get? (UpperCase.ofPoints text) := by
  rw [meaning?, if_neg (by simpa using h)]

@[simp] theorem meaning?_nil : b.meaning? [] = none := rfl

end Bindings

namespace Config

variable {entries : List (Value × Value)} {c : Config}

theorem bindAll_of_ofEntries (h : ofEntries entries = .ok c) :
    bindAll .usual (Value.inner entries "key_map") = .ok c.keyMap := by
  obtain ⟨-, hmap, -⟩ := ofEntries_eq_ok.1 h
  rw [← hmap, readKeyMap_eq]
  intro hbad
  rw [readKeyMap, sectionEntries_of_badSection hbad] at hmap
  cases hmap

/-- The window takes the key map as it is. -/
theorem capitalized_keyMap (h : ofEntries entries = .ok c) : c.keyMap.capitalized = c.keyMap := by
  have hcapitals : c.keyMap.InCapitals :=
    bindAll_preserves (bindAll_of_ofEntries h) Bindings.inCapitals_usual
      fun b host key hb => hb.set host key
  exact hcapitals.capitalized_eq

/-- What a text stands for is what the last entry gives that names it, and usually otherwise. -/
theorem meaning?_of_lastNamed? (h : ofEntries entries = .ok c) {text : Points}
    (htext : text ≠ []) :
    c.keyMap.capitalized.meaning? text =
      match Value.lastNamed? (Value.inner entries "key_map") (UpperCase.ofPoints text) with
      | some v => v.toKey?
      | none => Bindings.usual.get? (UpperCase.ofPoints text) := by
  rw [capitalized_keyMap h, Bindings.meaning?_of_ne_nil htext]
  exact get?_bindAll (bindAll_of_ofEntries h) _

/-- An entry that names a text gives a key. -/
theorem exists_toKey?_of_lastNamed? (h : ofEntries entries = .ok c) {name : Points} {v : Value}
    (hlast : Value.lastNamed? (Value.inner entries "key_map") name = some v) :
    ∃ key, v.toKey? = some key := by
  obtain ⟨e, hmem, -, rfl⟩ := Value.exists_mem_of_lastNamed? hlast
  exact (exists_bindAll_eq_ok.1 ⟨_, bindAll_of_ofEntries h⟩ e hmem).1

end Config

/-! ## Key events -/

/-- A key event of the toolkit. -/
structure KeyEvent where
  text : Points
  pressed : Bool
  /-- Whether the key is held down, and the event repeats by itself. -/
  repeats : Bool := false
deriving DecidableEq

namespace KeyEvent

/-- The input that an event is. -/
def input {τ : Type} (e : KeyEvent) : Window.Input τ := .key e.text e.pressed e.repeats

/-- The key that an event is about, if it is about one. -/
def key? (b : Bindings Key) (e : KeyEvent) : Option Key :=
  if e.repeats then none else b.meaning? e.text

/-- The setting that an event is. -/
def setting? (b : Bindings Key) (e : KeyEvent) : Option (Key × Bool) :=
  (e.key? b).map (·, e.pressed)

/-- The last of several events that is about a key. -/
def last? (b : Bindings Key) (key : Key) (es : List KeyEvent) : Option KeyEvent :=
  (es.filter fun e => e.key? b = some key).getLast?

/-- How a key was set last is how it was in the last event that is about it. -/
theorem lastSetting?_filterMap (b : Bindings Key) (key : Key) (es : List KeyEvent) :
    key.lastSetting? (es.filterMap (setting? b)) = (last? b key es).map pressed := by
  unfold Key.lastSetting? last?
  rw [← List.getLast?_map]
  congr 1
  induction es with
  | nil => rfl
  | cons e es ih =>
      unfold setting?
      cases hkey : e.key? b with
      | none =>
          rw [List.filterMap_cons_none (by simp [hkey]), List.filter_cons_of_neg (by simp [hkey])]
          exact ih
      | some k =>
          rw [List.filterMap_cons_some (b := (k, e.pressed)) (by simp [hkey])]
          by_cases hk : k = key
          · simp [hkey, hk]
            exact ih
          · simp [hkey, hk]
            exact ih

end KeyEvent

namespace Machine

variable {τ : Type}

/-- Every key is as a setting leaves it, whether or not the setting ends a wait. -/
theorem isDown_setKey (m : Machine τ) (key other : Key) (pressed : Bool) :
    (m.setKey key pressed).state.keypad.isDown other =
      (m.state.keypad.set key pressed).isDown other := by
  have hresolve (p : Processor τ) :
      p.resolve.2.state.keypad.isDown other = p.state.keypad.isDown other := by
    rcases p.resolve_cases with hp | ⟨x, key, _, _, hp⟩ <;> rw [hp]
    rfl
  show (m.processor.setKey key pressed m.isRunning).state.keypad.isDown other = _
  unfold Processor.setKey
  split
  · rw [hresolve]
    rfl
  · rfl

end Machine

namespace Window

variable {τ : Type} [Sub τ] [LT τ] [DecidableLT τ] {w : Window τ}

/-- An event sets the key that it is about, and does nothing else. -/
theorem respond_keyEvent (w : Window τ) (e : KeyEvent) :
    (w.respond e.input).after = match e.key? w.bindings with
      | none => w
      | some k => { w with machine := w.machine.setKey k e.pressed } := by
  show (w.key e.text e.pressed e.repeats).2 = _
  unfold key KeyEvent.key?
  cases e.repeats with
  | true => rfl
  | false => cases w.bindings.meaning? e.text <;> rfl

theorem bindings_respond_keyEvent (w : Window τ) (e : KeyEvent) :
    (w.respond e.input).after.bindings = w.bindings := by
  rw [respond_keyEvent]
  cases e.key? w.bindings <;> rfl

theorem bindings_respondAll (w : Window τ) (es : List KeyEvent) :
    (w.respondAll (es.map KeyEvent.input)).bindings = w.bindings := by
  induction es generalizing w with
  | nil => rfl
  | cons e es ih => exact (ih _).trans (w.bindings_respond_keyEvent e)

/-- After key events every key is as the settings leave it that they are. -/
theorem isDown_respondAll (w : Window τ) (es : List KeyEvent) (key : Key) :
    (w.respondAll (es.map KeyEvent.input)).machine.state.keypad.isDown key =
      (w.machine.state.keypad.setAll (es.filterMap (KeyEvent.setting? w.bindings))).isDown key := by
  induction es generalizing w with
  | nil => rfl
  | cons e es ih =>
      show Keypad.isDown ((w.respond e.input).after.respondAll
        (es.map KeyEvent.input)).machine.state.keypad key = _
      rw [ih, bindings_respond_keyEvent, Keypad.isDown_setAll, respond_keyEvent]
      cases hkey : e.key? w.bindings with
      | none =>
          rw [List.filterMap_cons_none (by simp [KeyEvent.setting?, hkey]), Keypad.isDown_setAll]
      | some k =>
          rw [List.filterMap_cons_some (b := (k, e.pressed)) (by simp [KeyEvent.setting?, hkey]),
            Keypad.setAll_cons, Keypad.isDown_setAll]
          congr 1
          exact w.machine.isDown_setKey k key e.pressed

omit [Sub τ] [LT τ] [DecidableLT τ] in
/-- A window takes its bindings from the configuration. -/
theorem bindings_ofMachine (m : Machine τ) (c : Config) (cyclesPerFrame : Nat) (font : String) :
    (ofMachine m c cyclesPerFrame font).after.bindings = c.keyMap.capitalized ∧
      (ofMachine m c cyclesPerFrame font).after.machine = m := by
  unfold ofMachine refreshed refresh
  dsimp only
  split
  · exact ⟨rfl, rfl⟩
  · split <;> exact ⟨rfl, rfl⟩

/-- **The keypad follows the key events.** A configuration is read, and a window has its bindings.
Then the text of a key stands for the value of the last entry of the key map that names it in
capitals, or for what it usually stands for. Starting from keys that are up, after any key events a
key is down exactly if the last event that is about it was a press. An event without a text, one
whose text stands for nothing and one that repeats leave the window as it is, and the key that any
other event is about is one that the machine takes. -/
theorem keypad_follows_events {entries : List (Value × Value)} {c : Config}
    (hc : Config.ofValue (.map entries) = .ok c) (hw : w.bindings = c.keyMap.capitalized)
    (hup : ∀ key, w.machine.state.keypad.isDown key = false) :
    (∀ text, text ≠ [] →
      (∀ v,
        Value.lastNamed? (Value.inner entries "key_map") (UpperCase.ofPoints text) = some v →
        ∃ key : Key, v.toInteger? = some (key.val : Int) ∧
          c.keyMap.capitalized.meaning? text = some key) ∧
      (Value.lastNamed? (Value.inner entries "key_map") (UpperCase.ofPoints text) = none →
        c.keyMap.capitalized.meaning? text = Bindings.usual.get? (UpperCase.ofPoints text))) ∧
    ∀ es : List KeyEvent,
      (∀ key, (w.respondAll (es.map KeyEvent.input)).machine.state.keypad.isDown key = true ↔
        ∃ e, KeyEvent.last? c.keyMap.capitalized key es = some e ∧ e.pressed = true) ∧
      (∀ e : KeyEvent, e.text = [] ∨ e.repeats = true ∨
          c.keyMap.capitalized.meaning? e.text = none →
        ((w.respondAll (es.map KeyEvent.input)).respond e.input).after =
          w.respondAll (es.map KeyEvent.input)) ∧
      ∀ (e : KeyEvent) (key : Key), e.repeats = false →
        c.keyMap.capitalized.meaning? e.text = some key →
        (w.respondAll (es.map KeyEvent.input)).machine.setKeyNamed (.int key.val) e.pressed =
          { answer := .ok ()
            after := ((w.respondAll (es.map KeyEvent.input)).respond e.input).after.machine } := by
  have hread : Config.ofEntries entries = .ok c := hc
  rw [← hw]
  refine ⟨fun text htext => ?_, fun es =>
    ⟨fun key => ?_, fun e he => ?_, fun e key hrepeats hkey => ?_⟩⟩
  · have hmeaning := Config.meaning?_of_lastNamed? hread htext
    rw [← hw] at hmeaning
    constructor
    · intro v hv
      rw [hv] at hmeaning
      obtain ⟨key, hkey⟩ := Config.exists_toKey?_of_lastNamed? hread hv
      exact ⟨key, Value.toKey?_eq_some.1 hkey, hmeaning.trans hkey⟩
    · intro hnone
      rw [hnone] at hmeaning
      exact hmeaning
  · rw [isDown_respondAll, Keypad.isDown_setAll, KeyEvent.lastSetting?_filterMap, hup]
    cases KeyEvent.last? w.bindings key es <;> simp
  · have hnone : e.key? w.bindings = none := by
      unfold KeyEvent.key?
      rcases he with htext | hrepeats | hmeaning
      · rw [htext, Bindings.meaning?_nil, ite_self]
      · rw [if_pos hrepeats]
      · rw [hmeaning, ite_self]
    rw [respond_keyEvent, bindings_respondAll, hnone]
  · have hsome : e.key? w.bindings = some key := by
      rw [KeyEvent.key?, if_neg (by simp [hrepeats]), hkey]
    rw [respond_keyEvent, bindings_respondAll, hsome]
    have hvalue : Key.ofValue (.int key.val) = .ok key := by
      have hlt := key.isLt
      rw [Key.ofValue, dif_pos (by omega)]
      rfl
    rw [Machine.setKeyNamed, hvalue]

/-- Two entries name `Q`, and the last one takes it from the key 4 to the key 6; a third entry names
a text that is no `String`. `Q` is pressed, and repeats; `1` is pressed and released. -/
theorem keypad_follows_events_of_two_keys :
    ∃ c, Config.ofValue (.map [(.text "key_map", .map [(.text "q", .int 5), (.text "Q", .int 6),
        (.illFormed [0xD800], .int 1)])]) = .ok c ∧
      c.keyMap.capitalized.meaning? (.ofText "q") = some 6 ∧
      c.keyMap.capitalized.meaning? [0xD800] = some 1 ∧
      let w : Window Nat := (ofMachine (c.machine (.ofSeed 0) 1 0) c 11 "").after
      let es : List KeyEvent := [⟨.ofText "q", true, false⟩, ⟨.ofText "1", true, false⟩,
        ⟨.ofText "q", true, true⟩, ⟨.ofText "1", false, false⟩]
      ∀ key, (w.respondAll (es.map KeyEvent.input)).machine.state.keypad.isDown key = true ↔
        key = 6 := by
  let b : Bindings Key := (Bindings.usual.set (.ofText "Q") 6).set [0xD800] 1
  let es : List KeyEvent := [⟨.ofText "q", true, false⟩, ⟨.ofText "1", true, false⟩,
    ⟨.ofText "q", true, true⟩, ⟨.ofText "1", false, false⟩]
  have hc : Config.ofValue (.map [(.text "key_map", .map [(.text "q", .int 5), (.text "Q", .int 6),
      (.illFormed [0xD800], .int 1)])]) = .ok { keyMap := b } := by
    refine Config.eq_ok_of_toOption ?_
    decide +kernel
  have hlast : ∀ key, KeyEvent.last? b.capitalized key es =
      if key = 6 then some ⟨.ofText "q", true, false⟩
      else if key = 1 then some ⟨.ofText "1", false, false⟩ else none := by
    decide +kernel
  have hdown : ∀ key, Keypad.isDown {} key = false := by decide
  have hwindow (m : Machine Nat) (hm : m.state.keypad = {}) (key : Key) :
      ((ofMachine m { keyMap := b } 11 "").after.respondAll
        (es.map KeyEvent.input)).machine.state.keypad.isDown key = true ↔ key = 6 := by
    obtain ⟨hbindings, hmachine⟩ := bindings_ofMachine m { keyMap := b } 11 ""
    have hevents := (keypad_follows_events hc hbindings (by rw [hmachine, hm]; exact hdown)).2
    rw [(hevents es).1 key, hlast]
    by_cases h6 : key = 6
    · simp [h6]
    · by_cases h1 : key = 1 <;> simp [h6, h1]
  exact ⟨_, hc, by decide +kernel, by decide +kernel, hwindow _ rfl⟩

end Window

end Chip8
