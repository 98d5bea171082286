import Chip8.Machine.Dump
import Chip8.Proofs.Machine.Event

set_option autoImplicit false

/-! # What a host sees of a machine

Every action has an outcome (`outcome`), with an answer or a fault. Beside it and the log a host
sees the phase of the machine, whether it should sound a tone, the picture of the screen and the
dump. It sees nothing else: two machines with the same observations along all lists of actions
(`observe`) are the same to it.
-/

namespace Chip8

namespace Machine

variable {τ : Type} [Sub τ] [LT τ] [DecidableLT τ]

/-- What an action gives and leaves. Only steps answer with a snapshot. -/
def outcome (m : Machine τ) : Action τ → Outcome (Machine τ) (Option Snapshot)
  | .start => { answer := .ok none, after := m.start }
  | .stop => { answer := .ok none, after := m.stop }
  | .reset now => { answer := .ok none, after := m.reset now }
  | .step now => m.step now
  | .forceStep now => (m.forceStep now).map id some
  | .run clock count => m.run clock count
  | .loadProgram data => (m.loadProgram data).map id fun _ => none
  | .loadImage now data => (m.loadImage now data).map id fun _ => none
  | .setKey given pressed => (m.setKeyNamed given pressed).map id fun _ => none

theorem after_outcome (m : Machine τ) (a : Action τ) : (m.outcome a).after = m.act a := by
  cases a <;> rfl

/-- What a host sees of an action and of the machine after it. -/
structure Observation where
  answer : Except Fault (Option Snapshot)
  log : Array Record
  phase : Phase
  soundActive : Bool
  frame : Frame
  dump : Dump

/-- What a host sees of an outcome. -/
def Observation.ofOutcome (o : Outcome (Machine τ) (Option Snapshot)) : Observation where
  answer := o.answer
  log := o.log
  phase := o.after.phase
  soundActive := o.after.soundActive
  frame := o.after.frame
  dump := o.after.dump

/-- What a host sees of actions one after the other. -/
def observe (m : Machine τ) : List (Action τ) → List Observation
  | [] => []
  | a :: as => .ofOutcome (m.outcome a) :: (m.outcome a).after.observe as

end Machine

end Chip8
