import Chip8.Instruction.Execute
import Chip8.Instruction.Listing
import Chip8.Log

set_option autoImplicit false

/-! # The processor

A processor takes one step at a time. A step first lets the timers count down, if the clock says
that their period has passed since they last did; they count down once, however late the step
comes. Then, unless the processor waits for a key, it fetches, decodes and executes one
instruction.

An instruction that fails leaves the program counter where it was. So does one that would leave it
behind the last address: the fault is found after the instruction was executed, so that a jump or
a return at the end of memory is no fault.

A wait for a key ends when a key that was caught is *resolved*: its number goes into the register
that waits, and the program counter moves on.

The clock is any type of readings that can be subtracted and compared.
-/

namespace Chip8

/-- Whether a processor runs or waits for a key, and for which register. -/
inductive Mode where
  | running
  | awaitingKey (x : Reg)
deriving DecidableEq, Repr

/-- The name of a mode. -/
def Mode.name : Mode → String
  | running => "RUNNING"
  | awaitingKey _ => "AWAITING_KEY"

/-- What a step did: the registers after it, the word it executed if it did execute one, and the
number of instructions executed so far. -/
structure Snapshot where
  registers : Registers
  word : Option Word
  count : Nat
  mode : Mode
deriving DecidableEq

/-- The line of the listing for the instruction of a step. -/
def Snapshot.text (s : Snapshot) : Option String :=
  s.word.map fun w => (Instruction.decode w).text

/-- The word that a step executed, in base sixteen. -/
def Snapshot.wordText (s : Snapshot) : Option String := s.word.map (Radix.upper 4)

/-- A processor and its devices. -/
structure Processor (τ : Type) where
  state : State
  mode : Mode := .running
  /-- The number of instructions executed since the last reset. -/
  count : Nat := 0
  /-- The time between two ticks of the timers. -/
  period : τ
  /-- The reading of the clock when the timers last ticked. -/
  lastTick : τ

namespace State

/-- The instruction word at the program counter. -/
def fetch (s : State) : Except Fault Word :=
  match s.memory.read s.pc with
  | .error e => .error e
  | .ok high => (s.memory.read (s.pc + 1)).map fun low => Word.ofBytes high low

/-- Moves the program counter behind the current instruction. -/
def advance (s : State) : State := s.mapRegisters (·.skip)

/-- Puts the program counter at an address, whatever it is. -/
def setPc (s : State) (pc : Int) : State := s.mapRegisters fun r => { r with pc }

end State

/-- The records that the execution of a word writes. -/
def Word.records (w : Word) : Array Record :=
  match Instruction.decode w with
  | .unknown _ => #[.ignored w]
  | _ => #[]

namespace Processor

variable {τ : Type} [Sub τ] [LT τ] [DecidableLT τ]

/-- The processor after a reset at a reading of the clock. -/
def reset (p : Processor τ) (now : τ) : Processor τ :=
  { state := p.state.reset, period := p.period, lastTick := now }

/-- Lets the timers count down if their period has passed. -/
def tick (p : Processor τ) (now : τ) : Processor τ :=
  if now - p.lastTick < p.period then p
  else { p with state := p.state.tickTimers, lastTick := now }

/-- Ends the wait for a key if one was caught, and says whether it did. -/
def resolve (p : Processor τ) : Bool × Processor τ :=
  match p.mode with
  | .running => (false, p)
  | .awaitingKey x =>
    match p.state.keypad.take with
    | (none, _) => (false, p)
    | (some key, keypad) =>
      (true, { p with
        mode := .running
        state := { p.state with
          keypad
          registers := (p.state.registers.set x (UInt8.ofNat key.val)).skip } })

/-- Sets the state of a key, and ends the wait for one if that is asked for. -/
def setKey (p : Processor τ) (key : Key) (pressed resolving : Bool) : Processor τ :=
  let p := { p with state := { p.state with keypad := p.state.keypad.set key pressed } }
  if resolving then p.resolve.2 else p

/-- What a step that executed `word` shows. -/
def snapshot (p : Processor τ) (word : Option Word) : Snapshot where
  registers := p.state.registers
  word := word
  count := p.count
  mode := p.mode

/-- Executes a fetched word. -/
def perform (p : Processor τ) (w : Word) : Outcome (Processor τ) Snapshot :=
  match (Instruction.decode w).execute p.state.advance with
  | .error e => { answer := .error e, after := p, log := w.records }
  | .ok s =>
    if addressSpace ≤ s.pc then
      { answer := .error (.pastEndOfMemory s.pc)
        after := { p with state := s.setPc p.state.pc }
        log := w.records }
    else
      let p := { p with
        state := s
        count := p.count + 1
        mode := if s.keypad.isAwaiting then .awaitingKey w.x else p.mode }
      { answer := .ok (p.snapshot (some w)), after := p, log := w.records }

/-- What a step does behind the tick of the timers. -/
def proceed (p : Processor τ) : Outcome (Processor τ) Snapshot :=
  match p.mode with
  | .awaitingKey _ =>
    let p := p.resolve.2
    { answer := .ok (p.snapshot none), after := p }
  | .running =>
    match p.state.fetch with
    | .error e => { answer := .error e, after := p }
    | .ok w => p.perform w

/-- One step at a reading of the clock. -/
def step (p : Processor τ) (now : τ) : Outcome (Processor τ) Snapshot := (p.tick now).proceed

end Processor

end Chip8
