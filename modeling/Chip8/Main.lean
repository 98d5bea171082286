import Chip8.Console

set_option autoImplicit false

/-! # The program

Reads the command line, opens the window on the terminal and carries out the commands that are
typed there. All decisions are made elsewhere: this module reads files, clocks and lines, and
prints.
-/

namespace Chip8

namespace Terminal

/-- What reading a file gives. A problem that the machine has no words for ends the program. -/
def contentsOf (path : String) : IO FileContents := do
  if path.contains (Char.ofNat 0) then
    return .error .nullInName
  try
    return .ok (← IO.FS.readBinFile path).toList
  catch e =>
    match e with
    | .noFileOrDirectory .. => return .error .missing
    | .inappropriateType .. => return .error .directory
    | .permissionDenied .. => return .error .denied
    | e => throw e

/-- The clock, in seconds. -/
def seconds : IO Float := return (← IO.monoNanosNow).toFloat / 1.0e9

/-- Prints the window, the boxes that it opened and the records of at least a level. -/
def showReaction (level : Level) (r : Reaction Float Unit) : IO Unit := do
  for record in recordsFrom level r.log do
    IO.eprintln record.line
  for notice in r.notices do
    IO.eprintln (notice.title ++ ": " ++ notice.text)
  if let .error fault := r.answer then
    IO.eprintln fault.message
  for line in r.after.lines do
    IO.println line

/-- Lets frames pass in real time. -/
def waitFrames (level : Level) (w : Window Float) : Nat → IO (Window Float)
  | 0 => return w
  | count + 1 => do
    IO.sleep frameInterval.toUInt32
    let now ← seconds
    match w.timeout fun _ => now with
    | none => waitFrames level w count
    | some r =>
      if count = 0 ∨ ¬ r.notices.isEmpty then
        showReaction level r
      waitFrames level r.after count

/-- Carries out the commands on the terminal until it is closed. -/
partial def converse (level : Level) (w : Window Float) : IO Unit := do
  let line ← (← IO.getStdin).getLine
  if line.isEmpty then
    return ()
  let now ← seconds
  match Command.parse? line with
  | none =>
    IO.eprintln "load PATH, run, stop, step, reset, down KEY, up KEY, wait COUNT or quit"
    converse level w
  | some .quit => return ()
  | some (.load path) =>
    let r := w.loading now path (← contentsOf path)
    showReaction level r
    converse level r.after
  | some (.trigger a) =>
    let r := w.triggered a now
    showReaction level r
    converse level r.after
  | some (.key text pressed) => converse level (w.key (.ofText text) pressed false).2
  | some (.wait count) => converse level (← waitFrames level w count)

/-- The contents of the files that the command line names. -/
def namedFiles (arguments : List String) : IO (List (String × FileContents)) := do
  match CommandLine.parse arguments with
  | .error _ => return []
  | .ok options =>
    let names := options.config.file?.toList ++ options.rom.toList
    names.mapM fun path => return (path, ← contentsOf path)

end Terminal

end Chip8

open Chip8 in
/-- Begins a session with the given arguments. -/
def main (arguments : List String) : IO UInt32 := do
  let files ← Terminal.namedFiles arguments
  let entropy ← IO.getRandomBytes 32
  let seed : Nat := entropy.toList.foldl (fun n b => n * 256 + b.toNat) 0
  let now ← Terminal.seconds
  let read (path : String) : FileContents := (files.lookup path).getD (.error .missing)
  let launch := Launch.ofArguments arguments read (Font.choose [] "monospace") seed now
  let level := launch.level.getD .error
  for record in recordsFrom level launch.log do
    IO.eprintln record.line
  match launch.result with
  | .ok w =>
    for line in w.lines do
      IO.println line
    Terminal.converse level w
    return 0
  | .error (.exit .help) =>
    IO.println CommandLine.helpText
    return 0
  | .error fault =>
    if let some message := fault.message then
      IO.eprintln message
    return fault.code
