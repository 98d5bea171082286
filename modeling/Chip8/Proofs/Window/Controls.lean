import Chip8.Proofs.Machine.Atomicity
import Chip8.Proofs.Machine.Halt
import Chip8.Proofs.Machine.Settings
import Chip8.Proofs.Window.Refresh
import Chip8.Session

set_option autoImplicit false

/-! # The controls follow the machine

The toolkit works on a window by inputs (`Input`), one after the other. It calls the handler of an
entry of the tool bar only while the entry is enabled, and that of the timer only while the timer is
active (`handle?`).

A window agrees with its machine (`Agrees`) if the timer is active and the tool bar offers to stop
exactly while the machine runs, and the screen panel has the picture of its screen. Each handler
brings only a part of this up to date. The rest holds because of what the machine does: a step halts
it on just those faults that the handlers show in a box, and otherwise leaves its phase, as do a
reset, a file that is loaded or refused, and a key (`settled_respond`).

The handler of a single step does not stop the timer when the machine halts. It need not, since the
entry for the step is disabled as long as the timer is active; this is the only place where the
order kept by the toolkit matters.
-/

namespace Chip8

/-! ## What the handlers do with the machine -/

theorem Fault.isShown_of_isFatal {e : Fault} (h : e.isFatal = true) : e.isShown = true := by
  cases e <;> first | rfl | exact h

/-- A file without an image has a fault that is shown, unless no file can have its name. -/
theorem Image.isShown_of_ofFile {path : String} {contents : FileContents} {e : Fault}
    (h : ofFile path contents = .error e) (hname : contents ≠ .error .nullInName) :
    e.isShown = true := by
  cases contents with
  | error problem =>
      cases problem with
      | nullInName => exact absurd rfl hname
      | _ =>
          cases h
          rfl
  | ok bytes =>
      by_cases hempty : bytes.length = 0
      · rw [ofFile, check, if_pos hempty] at h
        cases h
        rfl
      · by_cases hlong : maxImageSize < bytes.length
        · rw [ofFile, check, if_neg hempty, if_pos hlong] at h
          cases h
          rfl
        · rw [ofFile, check, if_neg hempty, if_neg hlong] at h
          cases h

namespace Machine

section Load

variable {τ : Type} (m : Machine τ) (now : τ) (path : String) (contents : FileContents)

/-- A machine that runs goes on running when a file is loaded. -/
theorem phase_loadFile : (m.loadFile now path contents).after.phase = m.phase := by
  rcases m.loadFile_cases now path contents with ⟨bytes, _, _, _, hload⟩ | ⟨e, ho⟩
  · rw [hload.rest]
    rfl
  · rw [ho]

variable {m now path contents}

/-- A file without an image is refused. -/
theorem loadFile_of_error {e : Fault} (h : Image.ofFile path contents = .error e) :
    m.loadFile now path contents = { answer := .error e, after := m } := by
  rw [loadFile, h]

/-- A file with an image is loaded. -/
theorem answer_loadFile {r : List UInt8 × Record} (h : Image.ofFile path contents = .ok r) :
    (m.loadFile now path contents).answer = .ok () := by
  rcases m.loadFile_cases now path contents with ⟨bytes, _, _, _, hload⟩ | ⟨e, ho⟩
  · exact hload.answer
  · -- a refusal has no record, and the image was recorded
    have hlog : (m.loadFile now path contents).log.size = 0 := by rw [ho]; rfl
    rw [loadFile, h] at hlog
    simp at hlog

end Load

variable {τ α : Type} {m : Machine τ}

theorem Halts.isShown {e : Fault} {o : Outcome (Machine τ) α} (h : Halts e m o) :
    e.isShown = true :=
  Fault.isShown_of_isFatal (Fault.isFatal_iff.2 h.fault)

theorem Halts.isRunning {e : Fault} {o : Outcome (Machine τ) α} (h : Halts e m o) :
    o.after.isRunning = false := by
  rw [Machine.isRunning, h.phase]
  rfl

/-- A key does not touch the screen. -/
theorem frame_setKey (m : Machine τ) (key : Key) (pressed : Bool) :
    (m.setKey key pressed).frame = m.frame := by
  have hresolve (p : Processor τ) : p.resolve.2.state.screen = p.state.screen := by
    rcases p.resolve_cases with hp | ⟨x, key, _, _, hp⟩ <;> rw [hp]
    rfl
  show (m.processor.setKey key pressed m.isRunning).state.screen.frame = m.frame
  unfold Processor.setKey
  split
  · rw [hresolve]
    rfl
  · rfl

theorem Reachable.loadFile [Sub τ] [LT τ] [DecidableLT τ] {c : Config} (h : Reachable c m)
    (now : τ) (path : String) (contents : FileContents) :
    Reachable c (m.loadFile now path contents).after := by
  show Reachable c (m.operate (.loadFile now path contents)).after
  rw [after_operate]
  exact h.after _

end Machine

namespace Window

variable {τ : Type} [Sub τ] [LT τ] [DecidableLT τ]

/-! ## Inputs -/

/-- What the toolkit can do with a window. -/
inductive Input (τ : Type) where
  | run
  | stop
  | step (now : τ)
  | reset (now : τ)
  /-- A time-out, the clock being read for each instruction of the batch. -/
  | tick (clock : Nat → τ)
  /-- The entry for loading, with what is chosen in the file dialog. -/
  | choose (now : τ) (choice : Option (String × FileContents))
  | key (text : Points) (pressed repeats : Bool)

/-- Whether a file is chosen whose name has a null character, which the name of no file has. -/
def Input.hasNullInName {τ : Type} : Input τ → Bool
  | choose _ (some (_, .error .nullInName)) => true
  | _ => false

theorem Input.exists_of_hasNullInName {τ : Type} {i : Input τ} (h : i.hasNullInName = true) :
    ∃ now path, i = .choose now (some (path, .error .nullInName)) := by
  unfold hasNullInName at h
  split at h
  · exact ⟨_, _, rfl⟩
  · cases h

/-- What the handler of an input gives, if the toolkit calls it. -/
def handle? (w : Window τ) : Input τ → Option (Reaction τ Unit)
  | .run => w.trigger .run (·.run)
  | .stop => w.trigger .stop (·.stop)
  | .step now => w.trigger .step (·.step now)
  | .reset now => w.trigger .reset (·.reset now)
  | .tick clock => w.timeout clock
  | .choose now choice => w.trigger .load (·.choose now choice)
  | .key text pressed repeats =>
    some { answer := .ok (), after := (w.key text pressed repeats).2 }

/-- What an input does: nothing if the toolkit does not call its handler. -/
def respond (w : Window τ) (i : Input τ) : Reaction τ Unit :=
  (w.handle? i).getD { answer := .ok (), after := w }

/-- The window after inputs. -/
def respondAll (w : Window τ) (is : List (Input τ)) : Window τ :=
  is.foldl (fun w i => (w.respond i).after) w

/-! ## Agreement -/

/-- The timer and the tool bar of a window follow its machine. -/
structure Follows (w : Window τ) : Prop where
  timer : w.timerActive = w.machine.isRunning
  load : w.controls.load = !w.machine.isRunning
  run : w.controls.run = !w.machine.isRunning
  step : w.controls.step = !w.machine.isRunning
  stop : w.controls.stop = w.machine.isRunning

/-- A window agrees with its machine. -/
structure Agrees (w : Window τ) : Prop extends Follows w where
  view : w.screen.frame = some w.machine.frame

/-- A window of the configuration `c` with a reachable machine, and with all labels. -/
structure Sound (c : Config) (w : Window τ) : Prop where
  machine : Machine.Reachable c w.machine
  labels : w.registers.labels = RegisterPanel.names

/-- A handler has come to its end, and the window agrees with its machine. -/
structure Settled (c : Config) (r : Reaction τ Unit) : Prop where
  answer : r.answer = .ok ()
  sound : r.after.Sound c
  agrees : r.after.Agrees

variable {c : Config} {w : Window τ}

theorem Sound.shows (h : w.Sound c) (hc : c.Valid) : w.Shows := by
  refine ⟨?_, h.labels⟩
  rw [h.machine.grid.palette]
  exact hc.isBytes

omit [Sub τ] [LT τ] [DecidableLT τ] in
/-- What has the same timer and tool bar, and a machine in the same phase, follows it as well. -/
theorem Follows.congr {v : Window τ} (h : w.Follows) (htimer : v.timerActive = w.timerActive)
    (hcontrols : v.controls = w.controls) (hphase : v.machine.phase = w.machine.phase) :
    v.Follows := by
  have hrunning : v.machine.isRunning = w.machine.isRunning := by
    rw [Machine.isRunning, Machine.isRunning, hphase]
  constructor
  · rw [htimer, hrunning, h.timer]
  · rw [hcontrols, hrunning, h.load]
  · rw [hcontrols, hrunning, h.run]
  · rw [hcontrols, hrunning, h.step]
  · rw [hcontrols, hrunning, h.stop]

omit [Sub τ] [LT τ] [DecidableLT τ] in
theorem follows_updateControls (h : w.timerActive = w.machine.isRunning) :
    w.updateControls.Follows :=
  ⟨h, rfl, rfl, rfl, rfl⟩

/-! ## Handlers -/

section Handlers

variable (hc : c.Valid) (h : w.Sound c) (hw : w.Agrees)

include hc h in
/-- A refresh at the end of a handler brings the screen panel up to date. -/
theorem settled_refreshed (hfollows : w.Follows) (log : Array Record) (notices : Array Notice) :
    Settled c (w.refreshed log notices) := by
  obtain ⟨screen, registers, hframe, hlabels, hrefresh⟩ := refresh_of_shows (h.shows hc)
  rw [refreshed, hrefresh]
  exact ⟨rfl, ⟨h.machine, hlabels⟩, ⟨hfollows.congr rfl rfl rfl, hframe⟩⟩

include hc h in
/-- So do a refresh and a look at the phase of the machine, if the timer is right. -/
theorem settled_updated (htimer : w.timerActive = w.machine.isRunning) (log : Array Record)
    (notices : Array Notice) : Settled c (w.updateControls.refreshed log notices) := by
  have hsound : w.updateControls.Sound c := ⟨h.machine, h.labels⟩
  exact settled_refreshed hc hsound (follows_updateControls htimer) log notices

include h hw in
theorem settled_run : Settled c w.run :=
  ⟨rfl, ⟨h.machine.act .start, h.labels⟩, ⟨follows_updateControls rfl, hw.view⟩⟩

include hc h in
theorem settled_stop : Settled c w.stop := by
  have hsound : Sound c { w with machine := w.machine.stop, timerActive := false } :=
    ⟨h.machine.act .stop, h.labels⟩
  exact settled_updated hc hsound rfl #[] #[]

include hc h hw in
theorem settled_reset (now : τ) : Settled c (w.reset now) := by
  have hsound : Sound c { w with machine := w.machine.reset now } :=
    ⟨h.machine.act (.reset now), h.labels⟩
  exact settled_refreshed hc hsound (hw.toFollows.congr rfl rfl rfl) #[] #[]

include hc h hw in
/-- A step is taken while the machine does not run, so that the timer is not active when it fails.
-/
theorem settled_step (henabled : w.controls.step = true) (now : τ) : Settled c (w.step now) := by
  have hsound : Sound c { w with machine := (w.machine.forceStep now).after } :=
    ⟨h.machine.act (.forceStep now), h.labels⟩
  unfold step
  rcases Machine.forceStep_passes_or_halts h.machine now with hpass | ⟨e, hhalt⟩
  · obtain ⟨snapshot, hok⟩ := hpass.answer
    simp only [hok]
    exact settled_refreshed hc hsound (hw.toFollows.congr rfl rfl hpass.phase) _ _
  · have hidle : w.timerActive = false := by
      rw [hw.timer, ← Bool.not_eq_true', ← hw.step]
      exact henabled
    simp only [hhalt.answer, hhalt.isShown, if_true]
    exact settled_updated hc hsound (hidle.trans hhalt.isRunning.symm) _ _

include hc h hw in
theorem settled_frame (clock : Nat → τ) : Settled c (w.frame clock) := by
  have hm : Machine.Reachable c (w.machine.run clock w.cyclesPerFrame).after :=
    h.machine.act (.run clock w.cyclesPerFrame)
  unfold frame
  rcases Machine.run_passes_or_halts h.machine clock w.cyclesPerFrame with
    hpass | ⟨_, e, _, _, _, hhalt⟩
  · obtain ⟨last, hok⟩ := hpass.answer
    have hsound : Sound c { w with machine := (w.machine.run clock w.cyclesPerFrame).after } :=
      ⟨hm, h.labels⟩
    simp only [hok]
    exact settled_refreshed hc hsound (hw.toFollows.congr rfl rfl hpass.phase) _ _
  · -- unlike a single step, a batch stops the timer when it fails
    have hsound : Sound c
        { w with machine := (w.machine.run clock w.cyclesPerFrame).after, timerActive := false } :=
      ⟨hm, h.labels⟩
    simp only [hhalt.answer, hhalt.isShown, if_true]
    exact settled_updated hc hsound hhalt.isRunning.symm _ _

include hc h hw in
/-- A file that is loaded is shown, and one that is refused leaves the window. -/
theorem settled_load (now : τ) (path : String) (contents : FileContents) :
    Settled c (w.load now path contents) ∨
      ∃ e, Image.ofFile path contents = .error e ∧
        w.load now path contents = { answer := .error e, after := w } := by
  unfold load
  cases hfile : Image.ofFile path contents with
  | error e =>
      rw [Machine.loadFile_of_error hfile]
      exact .inr ⟨e, rfl, rfl⟩
  | ok r =>
      have hsound : Sound c { w with
          machine := (w.machine.loadFile now path contents).after
          status := "Loaded " ++ path } :=
        ⟨h.machine.loadFile now path contents, h.labels⟩
      have hphase := w.machine.phase_loadFile now path contents
      simp only [Machine.answer_loadFile hfile]
      exact .inl (settled_refreshed hc hsound (hw.toFollows.congr rfl rfl hphase) _ _)

include hc h hw in
theorem settled_choose {choice : Option (String × FileContents)}
    (hname : ∀ path, choice ≠ some (path, .error .nullInName)) (now : τ) :
    Settled c (w.choose now choice) := by
  cases choice with
  | none => exact ⟨rfl, h, hw⟩
  | some choice =>
      obtain ⟨path, contents⟩ := choice
      have hcontents : contents ≠ .error .nullInName := by
        rintro rfl
        exact hname path rfl
      unfold choose
      rcases settled_load hc h hw now path contents with hload | ⟨e, hfile, hload⟩
      · simp only [hload.answer]
        exact hload
      · simp only [hload, Image.isShown_of_ofFile hfile hcontents, if_true]
        exact ⟨rfl, h, hw⟩

include h hw in
/-- A key changes nothing that a window shows before the next step. -/
theorem settled_key (text : Points) (pressed repeats : Bool) :
    Settled c { answer := .ok (), after := (w.key text pressed repeats).2 } := by
  unfold key
  split
  · exact ⟨rfl, h, hw⟩
  · cases w.bindings.meaning? text with
    | none => exact ⟨rfl, h, hw⟩
    | some k =>
        refine ⟨rfl, ⟨h.machine.happen (.key k pressed), h.labels⟩, ⟨?_, ?_⟩⟩
        · exact hw.toFollows.congr rfl rfl rfl
        · exact hw.view.trans (congrArg some (w.machine.frame_setKey k pressed).symm)

end Handlers

/-! ## Inputs one after the other -/

theorem settled_trigger (h : w.Sound c) (hw : w.Agrees) (a : Action)
    (handler : Window τ → Reaction τ Unit)
    (hhandler : w.controls.allows a = true → Settled c (handler w)) :
    Settled c ((w.trigger a handler).getD { answer := .ok (), after := w }) := by
  unfold trigger
  split
  · exact hhandler ‹_›
  · exact ⟨rfl, h, hw⟩

/-- The window agrees with its machine when an input has been dealt with. -/
theorem settled_respond (hc : c.Valid) (h : w.Sound c) (hw : w.Agrees) {i : Input τ}
    (hname : i.hasNullInName = false) : Settled c (w.respond i) := by
  cases i with
  | run => exact settled_trigger h hw .run (·.run) fun _ => settled_run h hw
  | stop => exact settled_trigger h hw .stop (·.stop) fun _ => settled_stop hc h
  | step now =>
      exact settled_trigger h hw .step (·.step now) fun henabled =>
        settled_step hc h hw henabled now
  | reset now =>
      exact settled_trigger h hw .reset (·.reset now) fun _ => settled_reset hc h hw now
  | tick clock =>
      show Settled c ((w.timeout clock).getD { answer := .ok (), after := w })
      unfold timeout
      split
      · exact settled_frame hc h hw clock
      · exact ⟨rfl, h, hw⟩
  | choose now choice =>
      refine settled_trigger h hw .load (·.choose now choice) fun _ =>
        settled_choose hc h hw ?_ now
      rintro path rfl
      cases hname
  | key text pressed repeats => exact settled_key h hw text pressed repeats

/-- The handler of such an input fails, and leaves the window as it was. -/
theorem after_respond_of_nullInName {i : Input τ} (hname : i.hasNullInName = true) :
    (w.respond i).after = w := by
  obtain ⟨now, path, rfl⟩ := Input.exists_of_hasNullInName hname
  show ((w.trigger .load (·.choose now _)).getD { answer := .ok (), after := w }).after = w
  unfold trigger
  split <;> rfl

theorem agrees_respondAll (hc : c.Valid) (h : w.Sound c) (hw : w.Agrees) (is : List (Input τ)) :
    (w.respondAll is).Sound c ∧ (w.respondAll is).Agrees := by
  induction is generalizing w with
  | nil => exact ⟨h, hw⟩
  | cons i is ih =>
      show ((w.respond i).after.respondAll is).Sound c ∧ ((w.respond i).after.respondAll is).Agrees
      cases hname : i.hasNullInName with
      | false =>
          have hi := settled_respond hc h hw hname
          exact ih hi.sound hi.agrees
      | true =>
          rw [after_respond_of_nullInName hname]
          exact ih h hw

/-- The first refresh shows the machine, too. -/
theorem settled_ofMachine {m : Machine τ} (hc : c.Valid) (hm : Machine.Reachable c m)
    (hphase : m.isRunning = false) (cyclesPerFrame : Nat) (font : String) :
    Settled c (ofMachine m c cyclesPerFrame font) := by
  have hsound : Sound c {
      machine := m, cyclesPerFrame, font
      bindings := c.keyMap.capitalized
      screen := { scale := c.displayScale } } :=
    ⟨hm, RegisterPanel.labels_initial⟩
  exact settled_updated hc hsound hphase.symm #[] #[]

theorem settled_ofConfig {seed : Int} {font : String} {now : Float} {r : Reaction Float Unit}
    (hc : c.Valid) (hr : ofConfig c seed font now = .ok r) : Settled c r := by
  unfold ofConfig at hr
  split at hr
  · cases hr
  · next m hm =>
    split at hr
    · cases hr
    · cases hr
      have hphase : m.isRunning = false := by
        unfold Config.build at hm
        split at hm
        · cases hm
        · cases hm
          rfl
      exact settled_ofMachine hc (.of_build hm) hphase _ font

/-- **The controls follow the machine.** A window is made from a configuration that was read.
Whatever inputs it gets, and whatever files are chosen among them, it agrees with its machine after
each of them: the timer is active, and the entry to stop enabled, exactly while the machine runs,
the entries to load, run and step exactly while it does not, and the screen panel has the picture of
its screen. No handler fails, unless a file is chosen whose name no file has. -/
theorem controls_follow_machine {data : Value} (hc : Config.ofDocument data = .ok c) {seed : Int}
    {font : String} {now : Float} {r : Reaction Float Unit}
    (hr : ofConfig c seed font now = .ok r) (is : List (Input Float)) :
    r.answer = .ok () ∧ (r.after.respondAll is).Agrees ∧
      ∀ i, i.hasNullInName = false → ((r.after.respondAll is).respond i).answer = .ok () := by
  have hvalid : c.Valid := Config.valid_of_ofValue hc
  have hfirst := settled_ofConfig hvalid hr
  obtain ⟨hsound, hagrees⟩ := agrees_respondAll hvalid hfirst.sound hfirst.agrees is
  exact ⟨hfirst.answer, hagrees, fun i hname =>
    (settled_respond hvalid hsound hagrees hname).answer⟩

/-- A program that jumps to the last word of the memory is chosen and run, which halts the machine;
then a key is pressed, a step is taken and the machine is reset. -/
theorem controls_follow_machine_of_program :
    ∃ c r, Config.ofDocument (.map [(.text "stack_depth", .int 1)]) = .ok c ∧
      ofConfig c 0 "" 0 = .ok r ∧
      (r.after.respondAll [.choose 0 (some ("jump.ch8", .ok [0x1F, 0xFE])), .run, .tick fun _ => 0,
        .key (.ofText "q") true false, .step 0, .reset 0]).Agrees := by
  have hread : Config.ofDocument (.map [(.text "stack_depth", .int 1)]) =
      .ok { stackDepth := 1 } := by rfl
  have hmade : (ofConfig { stackDepth := 1 } 0 "" 0).isOk = true := by decide +kernel
  obtain ⟨r, hr⟩ := Machine.exists_eq_ok_of_isOk hmade
  exact ⟨_, r, hread, hr, (controls_follow_machine hread hr _).2.1⟩

end Window

end Chip8
