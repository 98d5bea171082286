import Chip8.Session

set_option autoImplicit false

/-! # The console

On a terminal a session goes by lines: each line is a command, and the window is shown as text after
it. Commands trigger the entries of the tool bar, press and release keys, and let frames pass.

    load PATH    run    stop    step    reset    down KEY    up KEY    wait COUNT    quit
-/

namespace Chip8

/-- The line for a record in a log. -/
def Record.line (r : Record) : String := r.level.name ++ " " ++ r.message

/-- The levels in ascending order. -/
def Level.rank : Level → Nat
  | debug => 0
  | info => 1
  | error => 2

/-- The records of at least a level. -/
def recordsFrom (level : Level) (log : Array Record) : List Record :=
  log.toList.filter fun r => level.rank ≤ r.level.rank

/-- A frame as lines of text, a number sign for a lit pixel and a point for any other. -/
def Frame.lines (f : Frame) : List String :=
  f.rows.map fun row => String.ofList (row.map fun lit => if lit then '#' else '.')

/-- The window as lines of text: the screen, the registers and the status. -/
def Window.lines {τ : Type} (w : Window τ) : List String :=
  let screen := (w.screen.frame.map Frame.lines).getD []
  let registers := w.registers.values.map fun (name, value) => name ++ " " ++ value
  screen ++ ["  ".intercalate registers, w.status]

/-- A command of the console. -/
inductive Command where
  /-- Loads the program image in a file. -/
  | load (path : String)
  /-- Triggers an entry of the tool bar other than that for loading. -/
  | trigger (a : Action)
  /-- Presses or releases a key. -/
  | key (text : String) (pressed : Bool)
  /-- Lets frames pass. -/
  | wait (count : Nat)
  | quit
deriving DecidableEq, Repr

namespace Command

/-- The command that a line gives, and nothing if it gives none. -/
def parse? (line : String) : Option Command :=
  let cs := line.toList.takeWhile fun c => c != '\n' && c != '\r'
  let word := String.ofList (cs.takeWhile (· != ' '))
  let operand := String.ofList ((cs.drop word.length).dropWhile (· == ' '))
  match word with
  | "load" => if operand.isEmpty then none else some (.load operand)
  | "run" => some (.trigger .run)
  | "stop" => some (.trigger .stop)
  | "step" => some (.trigger .step)
  | "reset" => some (.trigger .reset)
  | "down" => some (.key operand true)
  | "up" => some (.key operand false)
  | "wait" => some (.wait (operand.toNat?.getD 1))
  | "quit" => some .quit
  | _ => none

example : parse? "load a b.ch8\n" = some (.load "a b.ch8") := by decide +kernel
example : parse? "down  q" = some (.key "q" true) := by decide +kernel
example : parse? "jump" = none := by decide +kernel

end Command

namespace Window

/-- Triggers an entry of the tool bar other than that for loading; nothing happens if it is not
enabled. -/
def triggered (w : Window Float) (a : Action) (now : Float) : Reaction Float Unit :=
  let handler (w : Window Float) : Reaction Float Unit :=
    match a with
    | .load => { answer := .ok (), after := w }
    | .run => w.run
    | .stop => w.stop
    | .step => w.step now
    | .reset => w.reset now
  (w.trigger a handler).getD { answer := .ok (), after := w }

/-- Loads a program image if the entry for it is enabled. -/
def loading (w : Window Float) (now : Float) (path : String) (contents : FileContents) :
    Reaction Float Unit :=
  (w.trigger .load (·.choose now (some (path, contents)))).getD { answer := .ok (), after := w }

end Window

end Chip8
