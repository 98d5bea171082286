import Chip8.Image
import Chip8.Processor
import Chip8.Screen.Frame

set_option autoImplicit false

/-! # The machine

A machine is a processor that a host starts and stops. As long as it does not run, its step does
nothing; only a forced step executes an instruction then. A fatal fault in any step halts the
machine and is logged.

A key that the host presses while the machine runs ends a wait for a key at once. Otherwise it is
kept until the next step.
-/

namespace Chip8

/-- Whether a machine runs. -/
inductive Phase where
  /-- It was never started. -/
  | initialized
  | running
  /-- It was stopped, by the host or by a fault. -/
  | halted
deriving DecidableEq, Repr

/-- The name of a phase. -/
def Phase.name : Phase → String
  | initialized => "INITIALIZED"
  | running => "RUNNING"
  | halted => "HALTED"

/-- A processor and whether it runs. -/
structure Machine (τ : Type) where
  processor : Processor τ
  phase : Phase := .initialized

namespace Machine

variable {τ : Type} [Sub τ] [LT τ] [DecidableLT τ]

/-- The registers and devices. -/
def state (m : Machine τ) : State := m.processor.state

/-- Applies a change to the processor. -/
def mapProcessor (m : Machine τ) (f : Processor τ → Processor τ) : Machine τ :=
  { m with processor := f m.processor }

/-- Whether the machine runs. -/
def isRunning (m : Machine τ) : Bool := m.phase == .running

/-- Whether the host should sound a tone. -/
def soundActive (m : Machine τ) : Bool := m.state.sound.isActive

/-- Lets the machine run. -/
def start (m : Machine τ) : Machine τ := { m with phase := .running }

/-- Halts the machine. -/
def stop (m : Machine τ) : Machine τ := { m with phase := .halted }

/-- Resets the processor; a machine that runs goes on running. -/
def reset (m : Machine τ) (now : τ) : Machine τ := m.mapProcessor (·.reset now)

/-! ## Steps -/

/-- Takes a step, whether or not the machine runs. -/
def forceStep (m : Machine τ) (now : τ) : Outcome (Machine τ) Snapshot :=
  let o := m.processor.step now
  let after := { m with processor := o.after }
  match o.answer with
  | .ok snapshot => { answer := .ok snapshot, after, log := o.log }
  | .error fault =>
    if fault.isFatal then
      { answer := .error fault
        after := { after with phase := .halted }
        log := o.log.push (.halted o.after.state.pc fault) }
    else { answer := .error fault, after, log := o.log }

/-- Takes a step if the machine runs. -/
def step (m : Machine τ) (now : τ) : Outcome (Machine τ) (Option Snapshot) :=
  if m.isRunning then (m.forceStep now).map id some
  else { answer := .ok none, after := m }

/-- Goes on from an outcome with up to `count` steps, the clock being read for each of them. -/
def runFrom (clock : Nat → τ) (k : Nat) (o : Outcome (Machine τ) (Option Snapshot)) :
    Nat → Outcome (Machine τ) (Option Snapshot)
  | 0 => o
  | count + 1 =>
    match o with
    | ⟨.error fault, after, log⟩ => ⟨.error fault, after, log⟩
    | ⟨.ok last, after, log⟩ =>
      if after.isRunning then
        let next := after.step (clock k)
        runFrom clock (k + 1) { next with log := log ++ next.log } count
      else ⟨.ok last, after, log⟩

/-- Takes up to `count` steps, the `k`-th at the reading `clock k`, and gives the snapshot of the
last one. It ends early when the machine does not run. -/
def run (m : Machine τ) (clock : Nat → τ) (count : Nat) :
    Outcome (Machine τ) (Option Snapshot) :=
  runFrom clock 0 { answer := .ok none, after := m } count

/-! ## Programs -/

/-- Puts a program at the program start. -/
def loadProgram (m : Machine τ) (data : List Int) : Outcome (Machine τ) Unit :=
  if data.all isByte then
    match m.state.memory.load programStart data with
    | .error fault => { answer := .error fault, after := m }
    | .ok memory =>
      { answer := .ok ()
        after := m.mapProcessor fun p => { p with state := { p.state with memory } }
        log := #[.loaded data.length] }
  else { answer := .error .notByte, after := m }

/-- Checks the size of a program image, resets the machine and loads the image. -/
def loadImage (m : Machine τ) (now : τ) (data : List Int) : Outcome (Machine τ) Unit :=
  match Image.check data.length with
  | .error fault => { answer := .error fault, after := m }
  | .ok () => (m.reset now).loadProgram data

/-- Reads a program image from a file and loads it. -/
def loadFile (m : Machine τ) (now : τ) (path : String) (contents : FileContents) :
    Outcome (Machine τ) Unit :=
  match Image.ofFile path contents with
  | .error fault => { answer := .error fault, after := m }
  | .ok (bytes, read) =>
    let o := m.loadImage now (bytes.map fun b => (b.toNat : Int))
    { o with log := #[read] ++ o.log }

/-! ## The host's side -/

/-- Sets the state of a key. -/
def setKey (m : Machine τ) (key : Key) (pressed : Bool) : Machine τ :=
  m.mapProcessor (·.setKey key pressed m.isRunning)

/-- Sets the state of the key that the host names. -/
def setKeyNamed (m : Machine τ) (given : Value) (pressed : Bool) : Outcome (Machine τ) Unit :=
  match Key.ofValue given with
  | .error fault => { answer := .error fault, after := m }
  | .ok key => { answer := .ok (), after := m.setKey key pressed }

/-- The picture of the screen. -/
def frame (m : Machine τ) : Frame := m.state.screen.frame

end Machine

end Chip8
