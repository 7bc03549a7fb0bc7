import RootObject.Console
import RootObject.Log.Line

/-!
The process that a program runs in: a configuration that is set at most once, a logger of which the
first set-up counts, one standard input for all consoles, standard output and standard error. The
stream over standard input is made with the first console and keeps the capacity that was configured
then; every console keeps the settings that were configured when it was made.
-/

namespace RootObject

structure Process where
  config? : Option Config
  /-- What is logged, once the logger is set up. -/
  log? : Option Log.Settings
  /-- The time that log lines tell. -/
  time : String
  /-- What standard input has for a stream to be made over it. -/
  stdin : List UInt8
  /-- The stream over standard input, once there is a console. -/
  input? : Option Stream
  consoles : List Console.Settings
  stdout : Sink
  stderr : String

namespace Process

variable {ε α : Type}

/-- A process that has done nothing yet. -/
def fresh (stdin : List UInt8) (time : String) : Process where
  config? := none
  log? := none
  time := time
  stdin := stdin
  input? := none
  consoles := []
  stdout := .reliable
  stderr := ""

/-- A process that starts with a configuration and logs as it says. -/
def started (config : Config) (stdin : List UInt8) (time : String) : Process :=
  { fresh stdin time with config? := some config, log? := some config.log }

/-- The configuration, or the defaults where none is set. -/
def configOrDefault (process : Process) : Config :=
  process.config?.getD {}

/-- Sets the configuration; the given one is handed back where there is one already. -/
def configure (config : Config) (process : Process) : Except Config Process :=
  match process.config? with
  | none => .ok { process with config? := some config }
  | some _ => .error config

/-- Sets the logger up, unless it is. -/
def startLog (settings : Log.Settings) (process : Process) : Process :=
  { process with log? := process.log?.or (some settings) }

/-- Shows the events that the logger lets through, if there is one. -/
def logged (events : List Log.Event) (process : Process) : Process :=
  match process.log? with
  | none => process
  | some settings => { process with stderr := process.stderr ++ settings.lines process.time events }

/-- Makes a console over standard input and output. -/
def openConsole (process : Process) : Process :=
  let config := process.configOrDefault
  let input := process.input?.getD (.ofSource (.ofBytes process.stdin) config.input.initialCapacity)
  { process with
    input? := some input
    consoles := process.consoles ++ [.ofConfig config] }

/-- A console, with the stream and the sink that all of them share. -/
def console? (process : Process) (console : Nat) : Option Console := do
  return ⟨← process.consoles[console]?, ← process.input?, process.stdout⟩

/-- The process after something was done at one of its consoles. -/
def after (process : Process) (outcome : Outcome Console ε α) : Process :=
  { process with
    input? := some outcome.state.stream
    stdout := outcome.state.sink }.logged outcome.events

/-- The last acts of a process that a fault ends: output is flushed, the fault is logged and told. -/
def terminated (fault : Fault) (process : Process) : Process :=
  let process := { process with stdout := process.stdout.flush.2 }.logged [.fatal fault]
  { process with stderr := process.stderr ++ fault.message ++ "\n" }

/-- All that was written to standard output. -/
def written (process : Process) : List UInt8 :=
  process.stdout.accepted

end Process
end RootObject
