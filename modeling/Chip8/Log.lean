import Chip8.Fault

set_option autoImplicit false

/-! # The log

What a machine reports beside its answers, and how each record is worded.
-/

namespace Chip8

/-- How much a record matters. -/
inductive Level where
  | debug
  | info
  | error
deriving DecidableEq, Repr

/-- The name of a level. -/
def Level.name : Level → String
  | debug => "DEBUG"
  | info => "INFO"
  | error => "ERROR"

/-- Something that happened. -/
inductive Record where
  /-- A program was put into memory. -/
  | loaded (size : Nat)
  /-- A program image was read from a file. -/
  | imageRead (path : String) (size : Nat)
  /-- A word that is no instruction was executed. -/
  | ignored (word : Int)
  /-- A fault halted the machine at an instruction. -/
  | halted (pc : Int) (fault : Fault)

namespace Record

/-- How much a record matters. -/
def level : Record → Level
  | loaded _ => .info
  | imageRead _ _ => .info
  | ignored _ => .debug
  | halted _ _ => .error

/-- The wording of a record. -/
def message : Record → String
  | loaded size => "Loaded " ++ toString size ++ " bytes at " ++ Radix.address 0x200
  | imageRead path size => "Read ROM '" ++ path ++ "' (" ++ toString size ++ " bytes)"
  | ignored word => "Ignoring unrecognized opcode " ++ Radix.upper 4 word
  | halted pc fault => "Machine halted at PC=" ++ Radix.address pc ++ ": " ++ fault.message

end Record

/-- What an operation gives: its answer, or the fault that stopped it; what it leaves behind; and
the records it wrote, in order. -/
structure Outcome (σ α : Type) where
  answer : Except Fault α
  after : σ
  log : Array Record := #[]

namespace Outcome

variable {σ τ α β : Type}

/-- An outcome in terms of a larger state and another answer. -/
def map (o : Outcome σ α) (f : σ → τ) (g : α → β) : Outcome τ β :=
  { answer := o.answer.map g, after := f o.after, log := o.log }

end Outcome

end Chip8
