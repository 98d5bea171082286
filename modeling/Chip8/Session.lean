import Chip8.CommandLine
import Chip8.Config.Build
import Chip8.Config.Read
import Chip8.Window
import Chip8.Yaml.Document

set_option autoImplicit false

/-! # Sessions

A session begins with the command line: it gives the configuration file, if any, and the program
image to run at once, if any. What can go wrong until the window is shown ends the session.
-/

namespace Chip8

/-- Why there is no window. -/
inductive LaunchFault where
  /-- The command line asked for no session. -/
  | exit (e : CommandLine.Exit)
  /-- The configuration file cannot be read. -/
  | unreadableConfig (path : String) (problem : FileProblem)
  /-- The configuration file is no text. -/
  | undecodableConfig
  /-- The configuration file has no value as a YAML document. -/
  | yaml (problem : Yaml.Problem)
  /-- The configuration file is no configuration. -/
  | config (fault : ConfigFault)
  /-- The window cannot be made, or the program image not loaded. -/
  | window (fault : Fault)

/-- The wording of a fault, if there is anything to say. -/
def LaunchFault.message : LaunchFault → Option String
  | exit e => e.message
  | unreadableConfig path problem => some (problem.message path)
  | undecodableConfig => some "The configuration file is not encoded as UTF-8."
  | yaml problem => some problem.message
  | config fault => some (Quoted.bare fault.message)
  | window fault => some fault.message

/-- The code with which the program ends. -/
def LaunchFault.code : LaunchFault → UInt32
  | exit e => e.code
  | _ => 1

namespace Config

/-- The configuration in a YAML text. -/
def ofYaml (text : String) : Except LaunchFault Config :=
  match Yaml.read text with
  | .error problem => .error (.yaml problem)
  | .ok v => (ofDocument v).mapError .config

/-- The configuration in a file. -/
def ofFile (path : String) (contents : FileContents) : Except LaunchFault Config :=
  match contents with
  | .error problem => .error (.unreadableConfig path problem)
  | .ok bytes =>
    match String.fromUTF8? ⟨bytes.toArray⟩ with
    | none => .error .undecodableConfig
    | some text => ofYaml text

end Config

namespace Window

/-- The window of a configuration at its start, and what its first refresh did. -/
def ofConfig (c : Config) (seed : Int) (font : String) (now : Float) :
    Except Fault (Reaction Float Unit) :=
  match c.build seed now with
  | .error fault => .error fault
  | .ok machine =>
    match c.cyclesPerFrame? with
    | none => .error .rateTooHigh
    | some cycles => .ok (ofMachine machine c cycles font)

end Window

/-- The beginning of a session. -/
structure Launch where
  /-- The least level of the records that are shown; none as long as the log is not set up. -/
  level : Option Level := none
  /-- Whether a window came into being, which it does before its machine is built. -/
  windowMade : Bool := false
  log : Array Record := #[]
  result : Except LaunchFault (Window Float)

namespace Launch

/-- Begins a session: `read` gives the contents of files, `seed` counts if the configuration has
none, and `now` is the reading of the clock. -/
def ofArguments (arguments : List String) (read : String → FileContents) (font : String)
    (seed : Int) (now : Float) : Launch :=
  match CommandLine.parse arguments with
  | .error e => { result := .error (.exit e) }
  | .ok options =>
    let level := some (if options.verbose then Level.debug else Level.info)
    let config : Except LaunchFault Config :=
      match options.config.file? with
      | none => .ok {}
      | some path => Config.ofFile path (read path)
    match config with
    | .error fault => { level, result := .error fault }
    | .ok config =>
      match Window.ofConfig config seed font now with
      | .error fault => { level, windowMade := true, result := .error (.window fault) }
      | .ok first =>
        match first.answer, options.rom.filter (!·.isEmpty) with
        | .error fault, _ => { level, windowMade := true, result := .error (.window fault) }
        | .ok (), none =>
          { level, windowMade := true, log := first.log, result := .ok first.after }
        | .ok (), some path =>
          let loaded := first.after.load now path (read path)
          let log := first.log ++ loaded.log
          match loaded.answer with
          | .error fault => { level, windowMade := true, log, result := .error (.window fault) }
          | .ok () => { level, windowMade := true, log, result := .ok loaded.after.run.after }

end Launch

end Chip8
