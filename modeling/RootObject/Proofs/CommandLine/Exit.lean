import RootObject.Proofs.CommandLine.Leads
import RootObject.Proofs.Output.Sink

/-!
What the program leaves behind. A command runs at one console, over standard input and a sink that never
fails, and the program's output is what that sink has accepted when the command is done or has failed
(`exit_eq`): flushing it once more at the end adds nothing. What goes to standard error is the log, and
behind it the message of the fault. A log that shows warnings at most shows nothing (`lines_of_quiet`).
-/

namespace RootObject

namespace Log.Settings

/-- Nothing below a warning is let through, for no part of the program. -/
def Quiet (settings : Settings) : Prop :=
  ∀ target, (settings.levelFor target).rank ≤ Level.warn.rank

/-- No event is a warning. -/
theorem warn_lt_level (event : Event) : Level.warn.rank < event.level.rank := by
  cases event <;> simp [Event.level, Level.rank]

theorem lines_of_quiet {settings : Settings} (quiet : settings.Quiet) (time : String)
    (events : List Event) : settings.lines time events = "" := by
  have unshown : settings.shown events = [] := by
    apply List.filter_eq_nil_iff.mpr
    intro event _ enabled
    have reached := of_decide_eq_true enabled
    have above := warn_lt_level event
    unfold levelOf at reached
    split at reached
    · next target found =>
        have := quiet target
        omega
    · have : settings.level.rank ≤ Level.warn.rank := quiet .host
      omega
  rw [lines, unshown]
  rfl

end Log.Settings

namespace CommandLine

/-! ### The configuration -/

/-- The configuration that a command line names, before anything is overridden. -/
def Given.file (given : Given) (contentOf : String → Except FileError (List UInt8)) :
    Except ConfigFault Config :=
  match given.config with
  | none => .ok {}
  | some path => configOfFile path (contentOf path)

theorem configuration_invocation (given own : Given) (command : Command)
    (contentOf : String → Except FileError (List UInt8)) :
    (given.invocation own command).configuration contentOf =
      (given.file contentOf).map fun config =>
        config.overriddenBy (if own.verbosity = 0 then given.verbosity else own.verbosity)
          (own.format.or given.format) := by
  unfold Invocation.configuration Given.file Given.invocation
  cases given.config with
  | none => rfl
  | some path =>
      cases read : configOfFile path (contentOf path) with
      | error fault => simp only [read, bind, Except.bind, Except.map]
      | ok config =>
          simp only [read, bind, Except.bind, Except.map]
          rfl

/-- What is set in front of a command has a part in its run only through the configuration. -/
theorem run_leads {leads : List Lead} {given : Given} (fit : Lead.given? leads = some given) (verb : Verb)
    (rest : List String) (contentOf : String → Except FileError (List UInt8)) (stdin : List UInt8)
    (time : String) :
    run (leads.flatMap Lead.arguments ++ verb.name :: rest) contentOf stdin time =
      match readCommand verb rest with
      | .error diversion => diversion.exit
      | .ok (own, command) =>
          match given.file contentOf with
          | .error fault => .complained 1 ("Error: " ++ fault.message ++ "\n")
          | .ok config =>
              command.exit
                (config.overriddenBy (if own.verbosity = 0 then given.verbosity else own.verbosity)
                  (own.format.or given.format)) stdin time := by
  rw [run, read_leads fit]
  cases readCommand verb rest with
  | error diversion => rfl
  | ok asked =>
      obtain ⟨own, command⟩ := asked
      simp only [Except.map, configuration_invocation]
      cases given.file contentOf <;> rfl

/-! ### The command -/

namespace Command

/-- The console that a command finds. -/
def console (config : Config) (stdin : List UInt8) : Console :=
  ⟨.ofConfig config, .ofSource (.ofBytes stdin) config.input.initialCapacity, .reliable⟩

/-- What the command does there. -/
def outcome (command : Command) (config : Config) (stdin : List UInt8) :
    Outcome Console Fault Unit :=
  command.run (console config stdin)

/-- The code tells whether the command failed, and all that was written until then has been. -/
theorem exit_eq (command : Command) (config : Config) (stdin : List UInt8) (time : String) :
    command.exit config stdin time =
      let outcome := command.outcome config stdin
      let log := config.log.lines time [.starting command.text] ++ config.log.lines time outcome.events
      match outcome.ending with
      | .failed fault =>
          ⟨1, outcome.state.sink.accepted,
            log ++ config.log.lines time [.fatal fault] ++ fault.message ++ "\n"⟩
      | _ => ⟨0, outcome.state.sink.accepted, log⟩ := by
  have found : (((Process.started config stdin time).logged [.starting command.text]).openConsole).console?
      0 = some (console config stdin) := rfl
  unfold exit outcome
  simp only [found]
  obtain ⟨ending, left, events⟩ := command.run (console config stdin)
  cases ending with
  | returned value => simp [Process.after, Process.logged, Process.written, Process.started,
      Process.fresh, Process.openConsole]
  | aborted message => simp [Process.after, Process.logged, Process.written, Process.started,
      Process.fresh, Process.openConsole]
  | failed fault => simp [Process.after, Process.logged, Process.written, Process.started,
      Process.fresh, Process.openConsole, Process.terminated, Sink.accepted_flush, Fault.exitCode]

variable {command : Command} {config : Config} {stdin : List UInt8}

theorem exit_of_returned (time : String) (ended : (command.outcome config stdin).ending = .returned ()) :
    (command.exit config stdin time).code = 0 ∧
      (command.exit config stdin time).stdout = (command.outcome config stdin).state.sink.accepted ∧
      (config.log.Quiet → (command.exit config stdin time).stderr = "") := by
  rw [exit_eq]
  simp only [ended]
  refine ⟨trivial, trivial, fun quiet => ?_⟩
  rw [Log.Settings.lines_of_quiet quiet, Log.Settings.lines_of_quiet quiet]
  rfl

/-- A command that fails exits with 1, and its output is what the sink has accepted until then. Where the
log shows warnings at most, standard error has the fault's message and nothing else. -/
theorem exit_of_failed (time : String) {fault : Fault}
    (ended : (command.outcome config stdin).ending = .failed fault) :
    (command.exit config stdin time).code = 1 ∧
      (command.exit config stdin time).stdout = (command.outcome config stdin).state.sink.accepted ∧
      (config.log.Quiet → (command.exit config stdin time).stderr = fault.message ++ "\n") := by
  rw [exit_eq]
  simp only [ended]
  refine ⟨trivial, trivial, fun quiet => ?_⟩
  simp only [Log.Settings.lines_of_quiet quiet, String.append_empty, String.empty_append]

end Command
end CommandLine
end RootObject
