import RootObject.Proofs.Dispatch.Alike
import RootObject.Proofs.Session.Sharing

/-!
Sessions that cannot be told apart. Two sessions are alike when their streams are going to bring the
same and their terminals are alike, place by place. A step does alike in both and leaves them alike
(`Session.perform_alike`), so a whole run of steps brings the same endings and has the same written at
every terminal (`Session.run_alike`).
-/

namespace RootObject

open Console (Uniform? IfReturns?)

/-! ### Steps -/

namespace Object

variable (object : Object)

/-- All that a method called on the object asks for is granted. -/
def Grants (way : Way) (depth : Nat) (method : Method) (argument : method.Argument)
    (console : Console) : Prop :=
  match way with
  | .dispatched => object.table.Grants depth method argument console
  | .direct => Base.Grants method console

theorem call_uniform (way : Way) (depth : Nat) (method : Method) (argument : method.Argument) :
    Uniform? (object.Grants way depth method argument) (object.call way depth method argument) := by
  cases way with
  | dispatched => exact object.table.calls_uniform depth method argument
  | direct => exact (Base.call_uniform method argument).toOption

def PrintGrants (way : Way) (depth : Nat) : Printing → Console → Prop
  | .text text => object.Grants way depth .print text
  | .bool value => object.Grants way depth .printBool value
  | .int32 value => object.Grants way depth .printInt32 value

theorem print_uniform (way : Way) (depth : Nat) (printing : Printing) :
    Uniform? (object.PrintGrants way depth printing) (object.print way depth printing) := by
  cases printing with
  | text text => exact object.call_uniform way depth .print text
  | bool value => exact object.call_uniform way depth .printBool value
  | int32 value => exact object.call_uniform way depth .printInt32 value

def ChainGrants (object : Object) (depth : Nat) : List (Way × Printing) → Console → Prop
  | [], _ => True
  | (way, printing) :: rest, console =>
      object.PrintGrants way depth printing console ∧
        IfReturns? (object.print way depth printing)
          (fun receiver => (object.returned receiver).ChainGrants depth rest) console

theorem chain_uniform (object : Object) (depth : Nat) (printings : List (Way × Printing)) :
    Uniform? (object.ChainGrants depth printings) (object.chain depth printings) := by
  induction printings generalizing object with
  | nil => exact fun _ _ alike _ _ => .some ⟨rfl, alike⟩
  | cons printing rest ih =>
      obtain ⟨way, printing⟩ := printing
      exact (object.print_uniform way depth printing).andThen fun receiver => ih _

end Object

namespace Step

/-- All that the step asks for on its way is granted. -/
def Grants (depth : Nat) : Step → Console → Prop
  | .call object way method argument => object.Grants way depth method argument
  | .chain object printings => object.ChainGrants depth printings
  | .write _ | .flush => fun _ => True
  | .readLine => fun console => console.stream.GrantsUntil isLineEnd
  | .readToken => fun console => console.stream.GrantsToken

theorem perform_uniform (depth : Nat) (step : Step) :
    Uniform? (step.Grants depth) (step.perform depth) := by
  cases step with
  | call object way method argument =>
      exact (object.call_uniform way depth method argument).map fun _ _ alike =>
        (alike.map (Reply.of object method)).mapError Error.fault
  | chain object printings =>
      exact (object.chain_uniform depth printings).map fun _ _ alike =>
        (alike.map Reply.object).mapError Error.fault
  | write text =>
      exact (Console.write_uniform text).toOption.map fun _ _ alike =>
        (alike.map fun _ => Reply.nothing).mapError Error.io
  | flush =>
      exact Console.flush_uniform.toOption.map fun _ _ alike =>
        (alike.map fun _ => Reply.nothing).mapError Error.io
  | readLine =>
      exact Console.readLine_uniform.toOption.map fun _ _ alike =>
        (alike.map Reply.text).mapError Error.read
  | readToken =>
      exact Console.readToken_uniform.toOption.map fun _ _ alike =>
        (alike.map Reply.text).mapError Error.read

end Step

/-! ### Sessions -/

/-- Terminals at which no difference shows. -/
structure Terminal.Alike (first second : Terminal) : Prop where
  terminator : first.settings.lineTerminator = second.settings.lineTerminator
  stream : first.stream = second.stream
  accepted : first.sink.accepted = second.sink.accepted
  never : first.sink.NeverFails
  never' : second.sink.NeverFails

namespace Session

/-- The streams are going to bring the same, and the terminals are alike, place by place. -/
structure Alike (first second : Session) : Prop where
  streams : ∀ place : Nat, Option.Rel (fun stream stream' => stream.arrivals = stream'.arrivals)
    first.streams[place]? second.streams[place]?
  terminals : ∀ place : Nat, Option.Rel Terminal.Alike first.terminals[place]?
    second.terminals[place]?

/-- Lists that are related at every place stay so when one place of both is filled anew. -/
theorem rel_set {α β : Type} {related : α → β → Prop} {xs : List α} {ys : List β}
    (same : ∀ place : Nat, Option.Rel related xs[place]? ys[place]?) (place : Nat) {x : α} {y : β}
    (new : related x y) (other : Nat) :
    Option.Rel related (xs.set place x)[other]? (ys.set place y)[other]? := by
  rw [List.getElem?_set', List.getElem?_set']
  by_cases here : place = other
  · rw [if_pos here, if_pos here]
    exact rel_map (same other) fun _ _ _ => new
  · rw [if_neg here, if_neg here]
    exact same other

variable {first second : Session}

theorem console?_alike (alike : first.Alike second) (terminal : Nat) :
    Option.Rel Console.Alike (first.console? terminal) (second.console? terminal) := by
  refine rel_bind (alike.terminals terminal) fun seat seat' _ _ seats => ?_
  rw [← seats.stream]
  refine rel_bind (alike.streams seat.stream) fun stream stream' _ _ arrivals => .some ?_
  exact ⟨seats.terminator, arrivals, seats.accepted, seats.never, seats.never'⟩

theorem withConsole_alike (alike : first.Alike second) (terminal : Nat) {console console' : Console}
    (same : console.Alike console') :
    (first.withConsole terminal console).Alike (second.withConsole terminal console') := by
  rcases rel_cases (alike.terminals terminal) with ⟨none, none'⟩ | ⟨seat, seat', found, found', seats⟩
  · rw [withConsole, none, withConsole, none']
    exact alike
  · rw [withConsole_eq found, withConsole_eq found', ← seats.stream]
    constructor
    · exact rel_set alike.streams seat.stream same.arrivals
    · exact rel_set alike.terminals terminal
        ⟨seats.terminator, rfl, same.accepted, same.never, same.never'⟩

/-- All that the step at the terminal asks for is granted. -/
def StepGrants (depth terminal : Nat) (step : Step) (session : Session) : Prop :=
  ∀ console, session.console? terminal = some console → step.Grants depth console

/-- A step in sessions that are alike does alike and leaves them alike. -/
theorem perform_alike (alike : first.Alike second) {depth terminal : Nat} {step : Step}
    (granted : first.StepGrants depth terminal step) (granted' : second.StepGrants depth terminal step) :
    Option.Rel (Outcome.Alike Alike) (first.perform depth terminal step)
      (second.perform depth terminal step) := by
  refine rel_bind (console?_alike alike terminal) fun console console' found found' same => ?_
  have performed := step.perform_uniform depth console console' same (granted console found)
    (granted' console' found')
  refine rel_bind performed fun outcome outcome' _ _ same => .some ?_
  exact ⟨same.ending, withConsole_alike alike terminal same.state⟩

/-- All that the steps ask for, each when its turn comes, is granted. -/
def Grants (depth : Nat) : List (Nat × Step) → Session → Prop
  | [], _ => True
  | (terminal, step) :: rest, session =>
      session.StepGrants depth terminal step ∧
        ∀ outcome, session.perform depth terminal step = some outcome →
          Grants depth rest outcome.state

/-- What shows of a step: how it ended, and what has been written at each terminal by then. -/
def shown (outcome : Outcome Session Step.Error Step.Reply) :
    Ending Step.Error Step.Reply × List (List UInt8) :=
  (outcome.ending, outcome.state.terminals.map fun seat => seat.sink.accepted)

theorem shown_eq {outcome outcome' : Outcome Session Step.Error Step.Reply}
    (same : Outcome.Alike Alike outcome outcome') : shown outcome = shown outcome' := by
  unfold shown
  rw [same.ending]
  congr 1
  apply List.ext_getElem?
  intro place
  rw [List.getElem?_map, List.getElem?_map]
  rcases rel_cases (same.state.terminals place) with ⟨none, none'⟩ | ⟨seat, seat', found, found', seats⟩
  · rw [none, none']
  · rw [found, found', Option.map_some, Option.map_some, seats.accepted]

/-- Whatever steps are taken, the same shows in sessions that are alike. -/
theorem run_alike (alike : first.Alike second) {depth : Nat} {steps : List (Nat × Step)}
    (granted : first.Grants depth steps) (granted' : second.Grants depth steps) :
    (run depth steps first).map (List.map shown) = (run depth steps second).map (List.map shown) := by
  induction steps generalizing first second with
  | nil => rfl
  | cons step rest ih =>
      obtain ⟨terminal, step⟩ := step
      obtain ⟨now, later⟩ := granted
      obtain ⟨now', later'⟩ := granted'
      rw [run, run]
      rcases rel_cases (perform_alike alike now now') with ⟨none, none'⟩ |
        ⟨outcome, outcome', found, found', same⟩
      · rw [none, none']
      · have onward := ih same.state (later outcome found) (later' outcome' found')
        rw [found, found', Option.bind_eq_bind, Option.bind_some, Option.bind_eq_bind, Option.bind_some,
          map_run_cons, map_run_cons, onward, shown_eq same]

end Session
end RootObject
