import RootObject.Config.Printer
import RootObject.Process
import RootObject.Session

/-!
What a host asks of the process that its program runs in. Asking for something that the state of the
configuration rules out aborts that one request and changes nothing. A request may say that a fault ends
the process; there is no answer to it then, and none to later ones.
-/

namespace RootObject.Host

inductive Request where
  | configure (config : Config)
  | isConfigured
  | config
  | configOrDefault
  | startLog (settings : Log.Settings)
  | openConsole
  /-- A step at a console; when it is `fatal`, a fault of the step ends the process. -/
  | perform (console : Nat) (step : Step) (fatal : Bool)
  | terminate (fault : Fault)

inductive Answer where
  | done
  | flag (value : Bool)
  | config (config : Config)
  /-- A console was made, which reads from the stream that all consoles share. -/
  | console (settings : Console.Settings)
  | step (reply : Step.Reply)

/-- What became of a request. -/
inductive Result where
  | answered (answer : Ending Step.Error Answer) (process : Process)
  | exited (fault : Fault) (process : Process)

def Result.process : Result → Process
  | .answered _ process => process
  | .exited _ process => process

/-- A step at a console. There is no result where there is no such console or calls nest too deep. -/
def perform (console : Nat) (step : Step) (fatal : Bool) (process : Process) : Option Result := do
  let console ← process.console? console
  let outcome ← step.perform Session.callDepth console
  let process := process.after outcome
  return match fatal, outcome.ending with
    | true, .failed (.fault fault) => .exited fault (process.terminated fault)
    | _, ending => .answered (ending.map .step) process

def respond (process : Process) : Request → Option Result
  | .configure config =>
      some <| match process.configure config with
        | .ok process => .answered (.returned .done) process
        | .error config =>
            .answered (.aborted ("Config already initialized: " ++ config.text)) process
  | .isConfigured => some (.answered (.returned (.flag process.config?.isSome)) process)
  | .config =>
      some <| match process.config? with
        | some config => .answered (.returned (.config config)) process
        | none => .answered (.aborted "Config not initialized") process
  | .configOrDefault => some (.answered (.returned (.config process.configOrDefault)) process)
  | .startLog settings => some (.answered (.returned .done) (process.startLog settings))
  | .openConsole =>
      let settings := Console.Settings.ofConfig process.configOrDefault
      some (.answered (.returned (.console settings)) process.openConsole)
  | .perform console step fatal => perform console step fatal process
  | .terminate fault => some (.exited fault (process.terminated fault))

/-- The answers to requests made one after another, the process after them, and the fault that ended
it, if one did. -/
def run : List Request → Process →
    Option (List (Ending Step.Error Answer) × Option Fault × Process)
  | [], process => some ([], none, process)
  | request :: rest, process => do
      match ← respond process request with
      | .exited fault process => return ([], some fault, process)
      | .answered answer process =>
          let (answers, fault, process) ← run rest process
          return (answer :: answers, fault, process)

end RootObject.Host
