import Mathlib.Control.Monad.Basic
import RootObject.Dispatch.Overrides
import RootObject.Proofs.CommandLine.Exit
import RootObject.Proofs.Session.Small

/-!
Configurations change the effort, and not the results. Two configurations that end lines alike lead to
sessions and to commands that cannot be told apart, whatever their capacities, whether they flush before
input, and whatever they log (`Config.same_results`).
-/

namespace RootObject

/-! ### Sessions -/

/-- A session under a configuration: streams over some sources, and terminals that are as given but for
their settings. -/
def Session.opened (config : Config) (sources : List Source) (seats : List Terminal) : Session where
  streams := sources.map fun source => .ofSource source config.input.initialCapacity
  terminals := seats.map fun seat => { seat with settings := .ofConfig config }

theorem Session.opened_alike {first second : Config}
    (ends : first.input.lineTerminator = second.input.lineTerminator) (sources : List Source)
    {seats : List Terminal} (never : ∀ seat ∈ seats, seat.sink.NeverFails) :
    (opened first sources seats).Alike (opened second sources seats) := by
  constructor
  · intro place
    unfold opened
    simp only [List.getElem?_map]
    cases sources[place]? with
    | none => exact .none
    | some source => exact .some rfl
  · intro place
    unfold opened
    simp only [List.getElem?_map]
    cases found : seats[place]? with
    | none => exact .none
    | some seat =>
        have reliable := never seat (List.mem_of_getElem? found)
        exact .some ⟨ends, rfl, rfl, reliable, reliable⟩

/-- A first capacity below the limit is enough for a source of fewer bytes than half of it. -/
theorem Stream.ofSource_small {source : Source} {capacity : Nat} (few : capacity < Buffer.limit)
    (short : 2 * source.data.length < Buffer.limit) : (ofSource source capacity).Small where
  capacity := Nat.max_lt.mpr ⟨few, by decide⟩
  bytes := short

theorem Session.opened_small {config : Config} (few : config.input.initialCapacity < Buffer.limit)
    {sources : List Source} (short : ∀ source ∈ sources, 2 * source.data.length < Buffer.limit)
    {seats : List Terminal} (never : ∀ seat ∈ seats, seat.sink.NeverFails) :
    (opened config sources seats).Small := by
  constructor
  · intro stream among
    obtain ⟨source, listed, rfl⟩ := List.mem_map.mp among
    exact Stream.ofSource_small few (short source listed)
  · intro seat among
    obtain ⟨given, listed, rfl⟩ := List.mem_map.mp among
    exact never given listed

/-! ### Commands -/

namespace Console

open RootObject.Action

/-- All that an action asks for is granted, so many times in a row. -/
def TimesGrant {ε : Type} (granted : Console → Prop) (action : Action Console ε Unit) :
    Nat → Console → Prop
  | 0, _ => True
  | n + 1, console =>
      granted console ∧ action.IfReturns (fun _ => TimesGrant granted action n) console

theorem Uniform.times {ε : Type} {granted : Console → Prop} {action : Action Console ε Unit}
    (uniform : Uniform granted action) (n : Nat) :
    Uniform (TimesGrant granted action n) (times n action) := by
  induction n with
  | zero =>
      rw [times_zero]
      exact .pure ()
  | succ n ih =>
      rw [times_succ]
      exact uniform.bind fun _ => ih

theorem Uniform.forM {ε α : Type} {action : α → Action Console ε Unit}
    (uniform : ∀ a, Uniform (fun _ => True) (action a)) (as : List α) :
    Uniform (fun _ => True) (as.forM action) := by
  induction as with
  | nil => exact .pure ()
  | cons a as ih => exact (uniform a).bind_true fun _ => ih

end Console

namespace CommandLine

open Console (Uniform TimesGrant)

/-- The code and the output are the same; what is told on standard error may differ. -/
structure Exit.Alike (first second : Exit) : Prop where
  code : first.code = second.code
  stdout : first.stdout = second.stdout

namespace Command

theorem echo_uniform {α : Type} {granted : Console → Prop} {input : Action Console Fault α}
    {print : α → Action Console Fault Receiver} (reads : Uniform granted input)
    (prints : ∀ value, Uniform (fun _ => True) (print value)) : Uniform granted (echo input print) := by
  refine reads.bind_true fun value => (prints value).bind_true fun _ => ?_
  exact (Base.write_uniform .print "\n").bind_true fun _ => .pure ()

theorem listSlot_uniform (method : Method) : Uniform (fun _ => True) (listSlot method) := by
  refine (Base.write_uniform _ _).bind_true fun _ => ?_
  refine (Base.write_uniform _ _).bind_true fun _ => ?_
  refine (Base.write_uniform _ _).bind_true fun _ => ?_
  refine (Base.write_uniform _ _).bind_true fun _ => ?_
  refine (Base.write_uniform _ _).bind_true fun _ => ?_
  exact (Base.write_uniform _ _).bind_true fun _ => .pure ()

/-- All that the command asks for is granted. -/
def Grants : Command → Console → Prop
  | .print _ | .printBool _ | .printInt32 _ | .vtable => fun _ => True
  | .inputLine count =>
      TimesGrant (fun console => console.stream.GrantsUntil isLineEnd)
        (echo Base.inputLine Base.print) count
  | .inputBool count =>
      TimesGrant (fun console => console.stream.GrantsToken) (echo Base.inputBool Base.printBool) count
  | .inputInt32 count =>
      TimesGrant (fun console => console.stream.GrantsToken) (echo Base.inputInt32 Base.printInt32) count

theorem body_uniform (command : Command) : Uniform command.Grants command.body := by
  cases command with
  | print text => exact (Base.write_uniform .print text).bind_true fun _ => .pure ()
  | printBool value => exact (Base.write_uniform .printBool _).bind_true fun _ => .pure ()
  | printInt32 value => exact (Base.write_uniform .printInt32 _).bind_true fun _ => .pure ()
  | inputLine count =>
      exact (echo_uniform Base.inputLine_uniform fun line => Base.write_uniform .print line).times count
  | inputBool count =>
      exact (echo_uniform (Base.call_uniform .inputBool ()) fun value =>
        Base.write_uniform .printBool _).times count
  | inputInt32 count =>
      exact (echo_uniform (Base.call_uniform .inputInt32 ()) fun value =>
        Base.write_uniform .printInt32 _).times count
  | vtable => exact .forM listSlot_uniform Method.all

theorem run_uniform (command : Command) : Uniform command.Grants command.run :=
  command.body_uniform.bind_true fun _ => Console.flush_uniform.mapError (Fault.io .print)

theorem console_alike {first second : Config}
    (ends : first.input.lineTerminator = second.input.lineTerminator) (stdin : List UInt8) :
    (console first stdin).Alike (console second stdin) :=
  ⟨ends, rfl, rfl, Sink.neverFails_reliable, Sink.neverFails_reliable⟩

theorem console_small {config : Config} (few : config.input.initialCapacity < Buffer.limit)
    {stdin : List UInt8} (short : 2 * stdin.length < Buffer.limit) : (console config stdin).Small := by
  refine ⟨Stream.ofSource_small few ?_, Sink.neverFails_reliable⟩
  rw [show Source.data (.ofBytes stdin) = stdin from List.append_nil stdin]
  exact short

/-- What a command line overrides is a part of the log's settings, which the console does not see. -/
theorem console_overriddenBy (config : Config) (verbosity : Nat) (format : Option Log.Format)
    (stdin : List UInt8) : console (config.overriddenBy verbosity format) stdin = console config stdin :=
  rfl

/-- The code and the output of a command do not depend on what may differ. -/
theorem exit_alike {first second : Config}
    (ends : first.input.lineTerminator = second.input.lineTerminator) {command : Command}
    {stdin : List UInt8} (granted : command.Grants (console first stdin))
    (granted' : command.Grants (console second stdin)) (time time' : String) :
    (command.exit first stdin time).Alike (command.exit second stdin time') := by
  have same := command.run_uniform _ _ (console_alike ends stdin) granted granted'
  rw [exit_eq, exit_eq]
  unfold outcome
  have written := same.state.accepted
  simp only [same.ending]
  cases (command.run (console second stdin)).ending with
  | returned value => exact ⟨rfl, written⟩
  | failed fault => exact ⟨rfl, written⟩
  | aborted message => exact ⟨rfl, written⟩

/-! ### Commands whose memory never runs out -/

theorem echo_small {α : Type} {input : Action Console Fault α} {print : α → Action Console Fault Receiver}
    (reads : ∀ console, Console.Small console → (input console).state.Small)
    (prints : ∀ value console, Console.Small console → (print value console).state.Small)
    (console : Console) (small : console.Small) : (echo input print console).state.Small := by
  refine Console.kept_bind (reads console small) fun value console small => ?_
  refine Console.kept_bind (prints value console small) fun _ console small => ?_
  refine Console.kept_bind ?_ fun _ _ small => small
  exact Base.call_keeps Console.invariant_small .print "\n" console small

theorem timesGrant_of_small {granted : Console → Prop} {action : Action Console Fault Unit}
    (grants : ∀ console, Console.Small console → granted console)
    (keeps : ∀ console, Console.Small console → (action console).state.Small) (n : Nat)
    {console : Console} (small : console.Small) : TimesGrant granted action n console := by
  induction n generalizing console with
  | zero => trivial
  | succ n ih => exact ⟨grants console small, fun _ _ => ih (keeps console small)⟩

theorem grants_of_small (command : Command) {console : Console} (small : console.Small) :
    command.Grants console := by
  have keeps := fun method argument => Base.call_keeps Console.invariant_small method argument
  cases command with
  | print text => trivial
  | printBool value => trivial
  | printInt32 value => trivial
  | vtable => trivial
  | inputLine count =>
      apply timesGrant_of_small (fun _ small => small.stream.grantsUntil isLineEnd) _ count small
      exact echo_small (keeps .inputLine ()) (keeps .print)
  | inputBool count =>
      apply timesGrant_of_small (fun _ small => small.stream.grantsToken) _ count small
      exact echo_small (keeps .inputBool ()) (keeps .printBool)
  | inputInt32 count =>
      apply timesGrant_of_small (fun _ small => small.stream.grantsToken) _ count small
      exact echo_small (keeps .inputInt32 ()) (keeps .printInt32)

end Command

/-! ### The program -/

/-- The switches fit one another, and the configuration that they name is this. -/
def Lead.Configure (leads : List Lead) (contentOf : String → Except FileError (List UInt8))
    (config : Config) : Prop :=
  ∃ given, Lead.given? leads = some given ∧ given.file contentOf = .ok config

theorem run_alike {first second : Config}
    (ends : first.input.lineTerminator = second.input.lineTerminator) {leads leads' : List Lead}
    {contentOf contentOf' : String → Except FileError (List UInt8)}
    (configured : Lead.Configure leads contentOf first)
    (configured' : Lead.Configure leads' contentOf' second) (verb : Verb) (rest : List String)
    (stdin : List UInt8) (time time' : String)
    (granted : ∀ own command, readCommand verb rest = .ok (own, command) →
      command.Grants (Command.console first stdin) ∧ command.Grants (Command.console second stdin)) :
    (run (leads.flatMap Lead.arguments ++ verb.name :: rest) contentOf stdin time).Alike
      (run (leads'.flatMap Lead.arguments ++ verb.name :: rest) contentOf' stdin time') := by
  obtain ⟨given, fit, loaded⟩ := configured
  obtain ⟨given', fit', loaded'⟩ := configured'
  rw [run_leads fit, run_leads fit', loaded, loaded']
  cases asked : readCommand verb rest with
  | error diversion => exact ⟨rfl, rfl⟩
  | ok asks =>
      obtain ⟨own, command⟩ := asks
      obtain ⟨granted, granted'⟩ := granted own command asked
      rw [← Command.console_overriddenBy first (if own.verbosity = 0 then given.verbosity else own.verbosity)
        (own.format.or given.format)] at granted
      rw [← Command.console_overriddenBy second
        (if own.verbosity = 0 then given'.verbosity else own.verbosity)
        (own.format.or given'.format)] at granted'
      refine Command.exit_alike ?_ granted granted' time time'
      exact ends

end CommandLine

/-- Configurations that end lines alike bring the same results. In a session, whatever its sources bring
and whichever types its objects have, every step ends in the same way, and the same is written at every
terminal; a command leaves with the same code and the same output, whatever switches stand in front of
it. -/
theorem Config.same_results {first second : Config}
    (ends : first.input.lineTerminator = second.input.lineTerminator) :
    (∀ (sources : List Source) (seats : List Terminal) (depth : Nat) (steps : List (Nat × Step)),
      (∀ seat ∈ seats, seat.sink.NeverFails) →
      (Session.opened first sources seats).Grants depth steps →
      (Session.opened second sources seats).Grants depth steps →
      (Session.run depth steps (.opened first sources seats)).map (List.map Session.shown) =
        (Session.run depth steps (.opened second sources seats)).map (List.map Session.shown)) ∧
    ∀ (leads leads' : List CommandLine.Lead)
      (contentOf contentOf' : String → Except CommandLine.FileError (List UInt8)),
      CommandLine.Lead.Configure leads contentOf first →
      CommandLine.Lead.Configure leads' contentOf' second →
      ∀ (verb : CommandLine.Verb) (rest : List String) (stdin : List UInt8) (time time' : String),
        (∀ own command, CommandLine.readCommand verb rest = .ok (own, command) →
          command.Grants (CommandLine.Command.console first stdin) ∧
            command.Grants (CommandLine.Command.console second stdin)) →
        (CommandLine.run (leads.flatMap CommandLine.Lead.arguments ++ verb.name :: rest) contentOf stdin
            time).Alike
          (CommandLine.run (leads'.flatMap CommandLine.Lead.arguments ++ verb.name :: rest) contentOf'
            stdin time') := by
  constructor
  · intro sources seats depth steps never granted granted'
    exact Session.run_alike (Session.opened_alike ends sources never) granted granted'
  · intro leads leads' contentOf contentOf' configured configured' verb rest stdin time time' granted
    exact CommandLine.run_alike ends configured configured' verb rest stdin time time' granted

/-- A type whose lines are two lines each, over a source that fails between them, and a command with and
without a log. -/
theorem Config.same_results_two_lines :
    let first : Config := {}
    let second : Config :=
      { input.initialCapacity := 0, output.flushBeforeInput := false, log.level := .trace }
    let sources : List Source := [[.data [0x61, 0x0A, 0x62], .failure ⟨.timedOut, none⟩,
      .data [0x63, 0x0A, 0x64, 0x0A, 0x37], .nothing]]
    let seats : List Terminal := [⟨{}, .scripted [.acceptAtMost 1, .acceptAtMost 2], 0, true⟩]
    let pairing : Object := ⟨(Table.root.derive "Pairing").substitute .inputLine Overrides.twoLines⟩
    let steps : List (Nat × Step) := [(0, .call pairing .dispatched .inputLine ()),
      (0, .call pairing .dispatched .inputLine ()), (0, .call pairing .direct .inputInt32 ()),
      (0, .write "done"), (0, .readToken)]
    let contentOf : String → Except CommandLine.FileError (List UInt8) := fun _ =>
      .ok (Utf8.encode "\x7b\"input\":\x7b\"initial_capacity\":0\x7d,\"output\":\x7b\"flush_before_input\":false\x7d,\"log\":\x7b\"level\":\"trace\"\x7d\x7d")
    ((Session.run 2 steps (.opened first sources seats)).map List.length = some 5 ∧
      (Session.run 2 steps (.opened first sources seats)).map (List.map Session.shown) =
        (Session.run 2 steps (.opened second sources seats)).map (List.map Session.shown)) ∧
      (CommandLine.run ["-vv", "input-line", "--count", "2"] contentOf [0x61, 0x0A, 0x62] "").Alike
        (CommandLine.run ["--config", "c.json", "--log-format", "json", "input-line", "--count", "2"]
          contentOf [0x61, 0x0A, 0x62] "") := by
  intro first second sources seats pairing steps contentOf
  have never : ∀ seat ∈ seats, seat.sink.NeverFails := by
    simp [seats, Sink.NeverFails, Sink.scripted, Sink.Answer.Succeeds]
  have short : ∀ source ∈ sources, 2 * source.data.length < Buffer.limit := by
    intro source among
    obtain rfl := List.mem_singleton.mp among
    decide
  have small : (Session.opened first sources seats).Small :=
    Session.opened_small (by decide) short never
  have small' : (Session.opened second sources seats).Small :=
    Session.opened_small (by decide) short never
  have ends : first.input.lineTerminator = second.input.lineTerminator := rfl
  obtain ⟨session, program⟩ := Config.same_results ends
  refine ⟨⟨by decide +kernel, ?_⟩, ?_⟩
  · exact session sources seats 2 steps never (Session.grants_of_small 2 steps small)
      (Session.grants_of_small 2 steps small')
  · have configured : CommandLine.Lead.Configure [.verbose 1] contentOf first :=
      ⟨{ verbosity := 2 }, by decide, rfl⟩
    have configured' : CommandLine.Lead.Configure [.config "c.json", .logFormat .json] contentOf second :=
      ⟨{ config := some "c.json", format := some .json }, by decide, by decide +kernel⟩
    refine program _ _ _ _ configured configured' .inputLine ["--count", "2"] _ _ _ fun own command _ => ?_
    exact ⟨command.grants_of_small (CommandLine.Command.console_small (by decide) (by decide)),
      command.grants_of_small (CommandLine.Command.console_small (by decide) (by decide))⟩

end RootObject
