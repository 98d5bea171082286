import Chip8.Processor

set_option autoImplicit false

/-! # Dry runs

A dry run goes through the steps of a processor without any devices. It takes its words from a tape
that repeats, decodes them, moves the program counter on within the address space, and executes
nothing but to note where the program counter stood.
-/

namespace Chip8

/-- A processor without devices. -/
structure DryRun where
  /-- Where the program counter begins. -/
  start : Int
  /-- The words of the tape, in a ring. -/
  tape : Array Word
  registers : Registers := { pc := start }
  count : Nat := 0
  /-- The number of words taken from the tape. -/
  fetched : Nat := 0
  /-- The program counter at each execution, the first one first. -/
  visited : Array Int := #[]

namespace DryRun

/-- Begins again, further along the tape. -/
def reset (d : DryRun) : DryRun := { d with registers := { pc := d.start }, count := 0 }

/-- One step; there is none on an empty tape. -/
def step (d : DryRun) : Option (Snapshot × DryRun) :=
  (d.tape[d.fetched % d.tape.size]?).map fun word =>
    let registers := d.registers.jump (d.registers.pc + Instruction.size)
    let next := { d with
      registers
      count := d.count + 1
      fetched := d.fetched + 1
      visited := d.visited.push registers.pc }
    ({ registers, word := some word, count := next.count, mode := .running }, next)

end DryRun

end Chip8
