import RootObject.CommandLine.Arguments
import RootObject.CommandLine.Directory
import RootObject.CommandLine.Help
import RootObject.Config.Reader
import RootObject.Process

/-!
The program: from arguments, files and standard input to an exit code and what was written. Help and
version are told on standard output; a refused command line exits with 2, a configuration that cannot
be read and a fault of the command exit with 1.
-/

namespace RootObject.CommandLine

/-- What a program leaves behind. -/
structure Exit where
  code : Nat
  stdout : List UInt8
  stderr : String
  deriving DecidableEq, Repr

namespace Exit

def told (text : String) : Exit :=
  ⟨0, Utf8.encode text, ""⟩

def complained (code : Nat) (text : String) : Exit :=
  ⟨code, [], text⟩

end Exit

def Diversion.exit : Diversion → Exit
  | .help topic => .told topic.help
  | .version => .told versionText
  | .nothingAsked => .complained 2 Topic.program.help
  | .refusal error => .complained 2 (plainText error.report)

/-- Why there is no configuration. -/
inductive ConfigFault where
  | unreadable (path : String) (error : FileError)
  | refused (path : String) (refusal : Config.Refusal)
  deriving DecidableEq, Repr

def ConfigFault.message : ConfigFault → String
  | .unreadable path error => "cannot read '" ++ path ++ "': " ++ error.message
  | .refused path refusal => "cannot parse '" ++ path ++ "': " ++ refusal.message

/-- The configuration in a file with the given content. -/
def configOfFile (path : String) (content : Except FileError (List UInt8)) :
    Except ConfigFault Config :=
  match content with
  | .error error => .error (.unreadable path error)
  | .ok bytes =>
      if Utf8.Valid bytes then
        (Config.ofDocument Config.readConfig bytes).mapError (.refused path)
      else .error (.unreadable path .notText)

namespace Invocation

/-- The configuration that the command runs with. -/
def configuration (invocation : Invocation)
    (contentOf : String → Except FileError (List UInt8)) : Except ConfigFault Config := do
  let config ← match invocation.config with
    | none => pure {}
    | some path => configOfFile path (contentOf path)
  return config.overriddenBy invocation.verbosity invocation.format

end Invocation

/-- The exit of a command that runs with a configuration. -/
def Command.exit (command : Command) (config : Config) (stdin : List UInt8) (time : String) : Exit :=
  let process := (Process.started config stdin time).logged [.starting command.text] |>.openConsole
  match process.console? 0 with
  | none => ⟨0, [], process.stderr⟩
  | some console =>
      let outcome := command.run console
      let process := process.after outcome
      match outcome.ending with
      | .failed fault =>
          let process := process.terminated fault
          ⟨fault.exitCode, process.written, process.stderr⟩
      | _ => ⟨0, process.written, process.stderr⟩

/-- What the program makes of its arguments. -/
def run (arguments : List String) (contentOf : String → Except FileError (List UInt8))
    (stdin : List UInt8) (time : String) : Exit :=
  match read arguments with
  | .error diversion => diversion.exit
  | .ok invocation =>
      match invocation.configuration contentOf with
      | .error fault => .complained 1 ("Error: " ++ fault.message ++ "\n")
      | .ok config => invocation.command.exit config stdin time

end RootObject.CommandLine
