import Chip8.Config
import Chip8.Window.Font
import Chip8.Window.RegisterPanel
import Chip8.Window.ScreenPanel

set_option autoImplicit false

/-! # The window

The window owns a machine. A timer of its own lets the machine run a batch of instructions per
frame; a tool bar starts, stops, steps and resets it and loads programs; keys of the host are passed
on to the keypad.

Each handler gives the window after it, and says what it did besides: the records of the machine
and the boxes in which a fault was shown. A fault of the machine or of a program image is shown in a
box; any other one is the answer of the handler.

The toolkit calls the handler of a tool bar entry only while the entry is enabled, and that of the
timer only while the timer is active (`Window.trigger`, `Window.timeout`).
-/

namespace Chip8

/-- The time between two frames, in milliseconds. -/
def frameInterval : Nat := 16

/-- The number of instructions in a batch, at least one: as many as the rate gives in one frame. The
quotient is taken in floating point and rounded, a half to the even number. -/
def Config.cyclesPerFrame? (c : Config) : Option Nat :=
  (Binary.nearestQuotient? (c.cpuHz * frameInterval) 1000).map fun cycles => max 1 cycles.round

/-- Faults that the window shows in a box. -/
def Fault.isShown : Fault → Bool
  | invalidKey _ => true
  | emptyImage => true
  | imageTooLong _ => true
  | unreadableImage _ _ => true
  | fault => fault.isFatal

/-- The entries of the tool bar. -/
inductive Action where
  | load
  | run
  | stop
  | step
  | reset
deriving DecidableEq, Repr

/-- The text of an entry. -/
def Action.label : Action → String
  | load => "Load ROM..."
  | run => "Run"
  | stop => "Stop"
  | step => "Step"
  | reset => "Reset"

/-- The key that triggers an entry; empty if there is none. -/
def Action.shortcut : Action → String
  | load => "Ctrl+O"
  | step => "F10"
  | _ => ""

/-- Which entries of the tool bar are enabled. -/
structure Controls where
  load : Bool := true
  run : Bool := true
  stop : Bool := true
  step : Bool := true
  reset : Bool := true
deriving DecidableEq, Repr

/-- Whether an entry is enabled. -/
def Controls.allows (c : Controls) : Action → Bool
  | .load => c.load
  | .run => c.run
  | .stop => c.stop
  | .step => c.step
  | .reset => c.reset

/-- A box that shows a fault. -/
structure Notice where
  title : String
  text : String
deriving DecidableEq, Repr

/-- The window and the machine that it owns. -/
structure Window (τ : Type) where
  machine : Machine τ
  /-- The bindings of the host's keys, names in capitals. -/
  bindings : Bindings Key
  cyclesPerFrame : Nat
  font : String
  screen : ScreenPanel
  registers : RegisterPanel := .initial
  timerActive : Bool := false
  controls : Controls := {}
  status : String := "No ROM loaded"

/-- What a handler gives. -/
structure Reaction (τ α : Type) where
  answer : Except Fault α
  after : Window τ
  log : Array Record := #[]
  notices : Array Notice := #[]

namespace Window

variable {τ : Type} [Sub τ] [LT τ] [DecidableLT τ]

/-! ## Showing the machine -/

/-- Enables the entries that fit: a machine that runs can be stopped, and any other one can be
started, stepped and given a program. -/
def updateControls (w : Window τ) : Window τ :=
  let running := w.machine.isRunning
  { w with controls :=
    { w.controls with load := !running, run := !running, step := !running, stop := running } }

/-- The text of the status bar. -/
def statusText (m : Machine τ) : String :=
  m.phase.name ++ (if m.soundActive then " [BEEP]" else "")

/-- Shows the screen, the registers and the phase of the machine. -/
def refresh (w : Window τ) : Except Fault Unit × Window τ :=
  match w.screen.update w.machine.frame with
  | (.error fault, screen) => (.error fault, { w with screen })
  | (.ok (), screen) =>
    match w.registers.update w.machine.dump with
    | (.error fault, registers) => (.error fault, { w with screen, registers })
    | (.ok (), registers) =>
      (.ok (), { w with screen, registers, status := statusText w.machine })

/-- Ends a handler by showing the machine. -/
def refreshed (w : Window τ) (log : Array Record) (notices : Array Notice) : Reaction τ Unit :=
  let (answer, after) := w.refresh
  { answer, after, log, notices }

/-- The window of a machine, before and after it is first shown. -/
def ofMachine (machine : Machine τ) (c : Config) (cyclesPerFrame : Nat) (font : String) :
    Reaction τ Unit :=
  let w : Window τ :=
    { machine, cyclesPerFrame, font
      bindings := c.keyMap.capitalized
      screen := { scale := c.displayScale } }
  w.updateControls.refreshed #[] #[]

/-! ## Handlers -/

/-- Starts the machine and the timer. -/
def run (w : Window τ) : Reaction τ Unit :=
  { answer := .ok ()
    after := { w with machine := w.machine.start, timerActive := true }.updateControls }

/-- Stops the machine and the timer. -/
def stop (w : Window τ) : Reaction τ Unit :=
  ({ w with machine := w.machine.stop, timerActive := false }.updateControls).refreshed #[] #[]

/-- The box for a fault that halted the machine. -/
def haltNotice (fault : Fault) : Notice := ⟨"Machine halted", fault.message⟩

/-- Lets the machine take one step. -/
def step (w : Window τ) (now : τ) : Reaction τ Unit :=
  let o := w.machine.forceStep now
  let w := { w with machine := o.after }
  match o.answer with
  | .ok _ => w.refreshed o.log #[]
  | .error fault =>
    if fault.isShown then w.updateControls.refreshed o.log #[haltNotice fault]
    else { answer := .error fault, after := w, log := o.log }

/-- Resets the machine. -/
def reset (w : Window τ) (now : τ) : Reaction τ Unit :=
  { w with machine := w.machine.reset now }.refreshed #[] #[]

/-- Runs one batch of instructions; the `k`-th is executed at the reading `clock k`. -/
def frame (w : Window τ) (clock : Nat → τ) : Reaction τ Unit :=
  let o := w.machine.run clock w.cyclesPerFrame
  let w := { w with machine := o.after }
  match o.answer with
  | .ok _ => w.refreshed o.log #[]
  | .error fault =>
    if fault.isShown then
      { w with timerActive := false }.updateControls.refreshed o.log #[haltNotice fault]
    else { answer := .error fault, after := w, log := o.log }

/-- Loads a program image from a file. -/
def load (w : Window τ) (now : τ) (path : String) (contents : FileContents) : Reaction τ Unit :=
  let o := w.machine.loadFile now path contents
  let w := { w with machine := o.after }
  match o.answer with
  | .ok () => { w with status := "Loaded " ++ path }.refreshed o.log #[]
  | .error fault => { answer := .error fault, after := w, log := o.log }

/-- Loads the program image that was chosen in the file dialog; none if it was cancelled. -/
def choose (w : Window τ) (now : τ) (choice : Option (String × FileContents)) :
    Reaction τ Unit :=
  match choice with
  | none => { answer := .ok (), after := w }
  | some (path, contents) =>
    let r := w.load now path contents
    match r.answer with
    | .ok () => r
    | .error fault =>
      if fault.isShown then
        { r with
          answer := .ok ()
          notices := r.notices.push ⟨"Error", "Failed to load ROM: " ++ fault.message⟩ }
      else r

/-- Passes a key of the host on to the keypad, and says whether it was one for the machine. A key
that repeats by itself is, and does nothing. -/
def key (w : Window τ) (text : Points) (pressed repeats : Bool) : Bool × Window τ :=
  if repeats then (true, w)
  else
    match w.bindings.meaning? text with
    | none => (false, w)
    | some k => (true, { w with machine := w.machine.setKey k pressed })

/-- Closes the window, which stops the timer and the machine. -/
def close (w : Window τ) : Window τ := { w with timerActive := false, machine := w.machine.stop }

/-! ## The toolkit's side -/

/-- Triggers an entry of the tool bar: its handler is called if it is enabled. -/
def trigger {α : Type} (w : Window τ) (a : Action) (handler : Window τ → Reaction τ α) :
    Option (Reaction τ α) :=
  if w.controls.allows a then some (handler w) else none

/-- A time-out: a batch of instructions is run if the timer is active. -/
def timeout (w : Window τ) (clock : Nat → τ) : Option (Reaction τ Unit) :=
  if w.timerActive then some (w.frame clock) else none

/-! ## Layout -/

/-- The title of the window. -/
def title : String := "Retro CHIP-8"

/-- The name of the tool bar. -/
def toolBarName : String := "Main Toolbar"

/-- The entries of the tool bar from the left. -/
def toolBar : List Action := [.load, .run, .stop, .step, .reset]

/-- The title of the register panel. -/
def registerPanelTitle : String := "Registers"

/-- The caption of the file dialog. -/
def dialogCaption : String := "Open CHIP-8 ROM"

/-- Where the file dialog begins. -/
def dialogDirectory : String := ""

/-- The files that the dialog offers. -/
def dialogFilters : String := "CHIP-8 ROMs (*.ch8 *.c8);;All Files (*)"

/-- A colour as red, green and blue. -/
structure Color where
  red : UInt8
  green : UInt8
  blue : UInt8

/-- The colours of the window by what they are used for. -/
def colors : List (String × Color) := [
  ("Window", ⟨29, 29, 29⟩), ("WindowText", ⟨224, 224, 224⟩), ("Base", ⟨30, 30, 30⟩),
  ("Text", ⟨224, 224, 224⟩), ("Button", ⟨53, 53, 53⟩), ("ButtonText", ⟨224, 224, 224⟩),
  ("Highlight", ⟨42, 130, 218⟩)]

end Window

end Chip8
