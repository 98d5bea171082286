import Chip8.Text.Digit
import Chip8.Text.Quoted

set_option autoImplicit false

/-! # The command line

The program takes at most one program image, and three options: `-c` or `--config` with the name of
a configuration file, `-v` or `--verbose` for a log with all details, and `-h` or `--help`.

A long option may be cut short as long as it is not ambiguous, and its argument may follow an equals
sign. Short options may be written together behind one dash, and an argument may follow its letter
directly, all of the text up to the end. Everything behind `--` is a plain argument, and so are a
lone dash, a negative number and a text with a space that is no option. As the name of a
configuration file `--` counts as none.
-/

namespace Chip8.CommandLine

/-- The configuration that was asked for. -/
inductive Choice where
  /-- None was. -/
  | unset
  /-- The option is given, but with `--` for a name, which divides arguments and names no file. -/
  | unnamed
  /-- The one in a file. -/
  | file (name : String)
deriving DecidableEq, Repr

/-- The file of a choice. An empty name is none. -/
def Choice.file? : Choice → Option String
  | file name => if name.isEmpty then none else some name
  | _ => none

/-- What was asked for. -/
structure Options where
  rom : Option String := none
  config : Choice := .unset
  verbose : Bool := false
deriving DecidableEq, Repr

/-- Why the program ends before it begins. -/
inductive Exit where
  /-- Help was asked for. -/
  | help
  /-- The arguments are wrong. -/
  | usage (reason : String)
deriving DecidableEq, Repr

/-- The code with which the program ends. -/
def Exit.code : Exit → UInt32
  | help => 0
  | usage _ => 2

/-- The message that is written to the error stream. -/
def Exit.message : Exit → Option String
  | help => none
  | usage reason => some ("retro-chip8: error: " ++ reason)

/-- The text that is printed when help is asked for. -/
def helpText : String :=
  "usage: retro-chip8 [-h] [-c CONFIG] [-v] [rom]\n" ++
  "\n" ++
  "CHIP-8 virtual machine\n" ++
  "\n" ++
  "  rom                   ROM image to load on startup\n" ++
  "  -h, --help            show this help message and exit\n" ++
  "  -c, --config CONFIG   YAML system config file\n" ++
  "  -v, --verbose         enable debug logging"

/-- The options. -/
inductive Flag where
  | help
  | config
  | verbose
deriving DecidableEq, Repr

/-- The spellings of the options, in the order in which they are listed. -/
def spellings : List (String × Flag) := [
  ("-h", .help), ("--help", .help), ("-c", .config), ("--config", .config),
  ("-v", .verbose), ("--verbose", .verbose)]

/-- Both spellings of an option, as in a message. -/
def Flag.name : Flag → String
  | help => "-h/--help"
  | config => "-c/--config"
  | verbose => "-v/--verbose"

/-- Whether an option has an argument. -/
def Flag.takesArgument : Flag → Bool
  | config => true
  | _ => false

/-- What an argument is taken for. -/
inductive Argument where
  | plain (text : String)
  /-- The first `--`. -/
  | divider
  /-- An option, whether it is a long one, and what is attached to it: the text behind an equals
  sign, or whatever follows the letter of a short option. -/
  | option (flag : Flag) (long : Bool) (attached : Option (List Char))
  /-- An option that there is none. -/
  | unknown (text : String)

/-- Whether a text is a negative number: digits behind a dash, with at most one point in front of
the last of them. A line feed may follow. -/
def isNegativeNumber (cs : List Char) : Bool :=
  let isDigit (c : Char) : Bool := (Digit.value? c).isSome
  let cs := if cs.getLast? == some '\n' then cs.dropLast else cs
  match cs with
  | '-' :: rest =>
    let whole := rest.takeWhile isDigit
    match rest.drop whole.length with
    | [] => !whole.isEmpty
    | '.' :: fraction => !fraction.isEmpty && fraction.all isDigit
    | _ => false
  | _ => false

/-- The parts of a text before and behind the first equals sign. -/
def splitEquals (cs : List Char) : String × Option (List Char) :=
  let stem := cs.takeWhile (· != '=')
  (String.ofList stem, (cs.drop stem.length).tail?)

/-- Whether a text begins with two dashes. -/
def isLong (cs : List Char) : Bool := ['-', '-'].isPrefixOf cs

/-- The options that a text may be short for, and what is attached to them. -/
def candidates (cs : List Char) : List (String × Flag × Option (List Char)) :=
  if isLong cs then
    let (stem, attached) := splitEquals cs
    spellings.filterMap fun (spelling, flag) =>
      if stem.toList.isPrefixOf spelling.toList then some (spelling, flag, attached) else none
  else
    spellings.filterMap fun (spelling, flag) =>
      if spelling.toList == cs.take 2 then some (spelling, flag, some (cs.drop 2)) else none

/-- What an argument in front of the first `--` is taken for. -/
def classify (s : String) : Except Exit Argument :=
  match s.toList with
  | '-' :: _ :: _ =>
    let (stem, attached) := splitEquals s.toList
    match spellings.lookup stem with
    | some flag => .ok (.option flag (isLong s.toList) attached)
    | none =>
      match candidates s.toList with
      | [(_, flag, attached)] => .ok (.option flag (isLong s.toList) attached)
      | [] =>
        if isNegativeNumber s.toList || s.toList.contains ' ' then .ok (.plain s)
        else .ok (.unknown s)
      | several =>
        .error (.usage ("ambiguous option: " ++ s ++ " could match " ++
          ", ".intercalate (several.map (·.1))))
  | _ => .ok (.plain s)

/-- What the arguments are taken for. -/
def classifyAll : List String → Except Exit (List Argument)
  | [] => .ok []
  | s :: rest =>
    if s == "--" then .ok (.divider :: rest.map .plain)
    else do
      let argument ← classify s
      let more ← classifyAll rest
      return argument :: more

/-- Options that have been read so far. -/
structure Reading where
  options : Options := {}
  /-- Whether an argument was taken for the program image. -/
  romTaken : Bool := false
  /-- Arguments that nothing can be done with, the first one first. -/
  extras : Array String := #[]

/-- How an option ends, or a group of short ones behind one dash. -/
inductive Ending where
  /-- With an option that has no argument. -/
  | complete
  /-- With a configuration file. -/
  | argument (text : String)
  /-- With an option whose argument is the next one of the command line. -/
  | waiting

/-- The message that an option cannot do with what is attached to it. -/
def ignoresArgument (flag : Flag) (text : List Char) : Exit :=
  .usage ("argument " ++ flag.name ++ ": ignored explicit argument " ++
    Quoted.ofText (String.ofList text))

/-- How a group ends with an option that nothing is attached to. -/
def closing (flag : Flag) : List Flag × Ending :=
  if flag.takesArgument then ([], .waiting) else ([flag], .complete)

/-- The options without an argument in a group of short ones, in order, and how the group ends. The
letters behind an option are its argument if it takes one, and further options if it does not. -/
def letters (flag : Flag) : List Char → Except Exit (List Flag × Ending)
  | [] => .ok (closing flag)
  | letter :: rest =>
    if flag.takesArgument then .ok ([], .argument (String.ofList (letter :: rest)))
    else
      match spellings.lookup (String.ofList ['-', letter]) with
      | some next => (letters next rest).map fun (flags, ending) => (flag :: flags, ending)
      | none => .error (ignoresArgument flag (letter :: rest))

/-- The options without an argument in an option and what is attached to it, and how they end. -/
def group (flag : Flag) (long : Bool) : Option (List Char) → Except Exit (List Flag × Ending)
  | none => .ok (closing flag)
  | some text =>
    if flag.takesArgument then .ok ([], .argument (String.ofList text))
    else if long || text.isEmpty then .error (ignoresArgument flag text)
    else letters flag text

/-- Does what options without an argument ask for, the first one first. -/
def apply (o : Options) : List Flag → Except Exit Options
  | [] => .ok o
  | .help :: _ => .error .help
  | .verbose :: rest => apply { o with verbose := true } rest
  | .config :: rest => apply o rest

/-- The message that an option lacks its argument. -/
def lacksArgument : Exit := .usage "argument -c/--config: expected one argument"

/-- Reads the arguments from left to right. -/
def readAll (r : Reading) : List Argument → Except Exit Reading
  | [] => .ok r
  | .plain s :: .divider :: rest =>
    if r.romTaken then readAll { r with extras := (r.extras.push s).push "--" } rest
    else readAll { r with options := { r.options with rom := some s }, romTaken := true } rest
  | .plain s :: rest =>
    if r.romTaken then readAll { r with extras := r.extras.push s } rest
    else readAll { r with options := { r.options with rom := some s }, romTaken := true } rest
  | .divider :: rest =>
    if r.romTaken then readAll { r with extras := r.extras.push "--" } rest else readAll r rest
  | .unknown s :: rest => readAll { r with extras := r.extras.push s } rest
  | .option flag long attached :: rest =>
    match group flag long attached with
    | .error e => .error e
    | .ok (flags, ending) =>
      let finish (o : Options) : Except Exit Options := apply o flags
      match ending, rest with
      | .complete, rest => do readAll { r with options := ← finish r.options } rest
      | .argument text, rest => do
        let config := if text == "--" then Choice.unnamed else .file text
        readAll { r with options := ← finish { r.options with config } } rest
      | .waiting, .plain s :: rest => do
        readAll { r with options := ← finish { r.options with config := .file s } } rest
      | .waiting, _ => .error lacksArgument
termination_by arguments => arguments.length

/-- The options that the arguments ask for. -/
def parse (arguments : List String) : Except Exit Options := do
  let r ← readAll {} (← classifyAll arguments)
  if r.extras.isEmpty then return r.options
  else
    .error (.usage ("unrecognized arguments: " ++ " ".intercalate r.extras.toList))

end Chip8.CommandLine
