import RootObject.Dispatch.Table

/-!
Sessions: terminals that read from streams, and steps taken at them. Several terminals may read one
stream, each with settings and a sink of its own. A step is taken at one terminal and reaches no other
terminal's sink and no stream but the one that the terminal reads.
-/

namespace RootObject

/-- A console as a session holds it, without its stream. -/
structure Terminal where
  settings : Console.Settings
  sink : Sink
  /-- The place of its stream in the session. -/
  stream : Nat
  /-- Whether the stream is meant for more than this terminal. -/
  shared : Bool
  deriving DecidableEq, Repr

/-- What the console tells of itself. -/
def Terminal.text (terminal : Terminal) : String :=
  terminal.settings.text terminal.shared

structure Session where
  streams : List Stream
  terminals : List Terminal
  deriving DecidableEq, Repr

/-- A call that prints. -/
inductive Printing where
  | text (text : String)
  | bool (value : Bool)
  | int32 (value : Int32)
  deriving DecidableEq, Repr

/-- How a method is reached. -/
inductive Way where
  /-- By the receiver's table. -/
  | dispatched
  /-- As the root class has it. -/
  | direct
  deriving DecidableEq, Repr

namespace Object

/-- The outcome of a method called on the object, when at most `depth` calls may be nested. -/
def call (object : Object) (way : Way) (depth : Nat) (method : Method)
    (argument : method.Argument) (console : Console) :
    Option (Outcome Console Fault method.Reply) :=
  match way with
  | .dispatched => object.table.calls depth method argument console
  | .direct => some (Base.call method argument console)

def print (object : Object) (way : Way) (depth : Nat) :
    Printing → Console → Option (Outcome Console Fault Receiver)
  | .text text => object.call way depth .print text
  | .bool value => object.call way depth .printBool value
  | .int32 value => object.call way depth .printInt32 value

/-- Prints one thing after another, each on the object that the call before it returned. -/
def chain (object : Object) (depth : Nat) :
    List (Way × Printing) → Console → Option (Outcome Console Fault Object)
  | [], console => some ⟨.returned object, console, []⟩
  | (way, printing) :: rest, console =>
      Outcome.andThen? (object.print way depth printing console) fun receiver =>
        (object.returned receiver).chain depth rest

end Object

/-- What may be done at a terminal. -/
inductive Step where
  | call (object : Object) (way : Way) (method : Method) (argument : method.Argument)
  | chain (object : Object) (printings : List (Way × Printing))
  | write (text : String)
  | flush
  | readLine
  | readToken

namespace Step

/-- What a step brings. -/
inductive Reply where
  | nothing
  | object (object : Object)
  | text (text : String)
  | flag (value : Bool)
  | number (value : Int32)

/-- Why a step brings nothing. -/
inductive Error where
  | fault (fault : Fault)
  | read (error : ReadError)
  | io (error : IoError)
  deriving DecidableEq, Repr

/-- What a method of an object returned. -/
def Reply.of (object : Object) : (method : Method) → method.Reply → Reply
  | .print, receiver => .object (object.returned receiver)
  | .printBool, receiver => .object (object.returned receiver)
  | .printInt32, receiver => .object (object.returned receiver)
  | .inputLine, line => .text line
  | .inputBool, value => .flag value
  | .inputInt32, value => .number value

/-- The outcome of a step at a console, when at most `depth` calls may be nested. -/
def perform (depth : Nat) : Step → Console → Option (Outcome Console Error Reply)
  | .call object way method argument, console =>
      (object.call way depth method argument console).map fun outcome =>
        (outcome.map (Reply.of object method)).mapError .fault
  | .chain object printings, console =>
      (object.chain depth printings console).map fun outcome =>
        (outcome.map Reply.object).mapError .fault
  | .write text, console =>
      some (((Console.write text console).map fun _ => .nothing).mapError .io)
  | .flush, console => some (((Console.flush console).map fun _ => .nothing).mapError .io)
  | .readLine, console => some (((Console.readLine console).map .text).mapError .read)
  | .readToken, console => some (((Console.readToken console).map .text).mapError .read)

end Step

namespace Session

/-- A terminal with its stream. -/
def console? (session : Session) (terminal : Nat) : Option Console := do
  let terminal ← session.terminals[terminal]?
  let stream ← session.streams[terminal.stream]?
  return ⟨terminal.settings, stream, terminal.sink⟩

/-- The session with what became of a terminal's stream and sink. -/
def withConsole (session : Session) (terminal : Nat) (console : Console) : Session :=
  match session.terminals[terminal]? with
  | none => session
  | some seat => {
      streams := session.streams.set seat.stream console.stream
      terminals := session.terminals.set terminal { seat with sink := console.sink } }

/-- The outcome of a step at a terminal. There is none where the session has no such terminal or calls
nest too deep. -/
def perform (depth : Nat) (terminal : Nat) (step : Step) (session : Session) :
    Option (Outcome Session Step.Error Step.Reply) := do
  let console ← session.console? terminal
  let outcome ← step.perform depth console
  return ⟨outcome.ending, session.withConsole terminal outcome.state, outcome.events⟩

/-- How many nested calls a session allows. No type whose overrides come to an end needs more. -/
def callDepth : Nat := 1000

/-- The outcomes of steps taken one after another, each at its terminal, whatever the earlier ones
ended in. -/
def run (depth : Nat) : List (Nat × Step) → Session →
    Option (List (Outcome Session Step.Error Step.Reply))
  | [], _ => some []
  | (terminal, step) :: rest, session => do
      let outcome ← session.perform depth terminal step
      let outcomes ← run depth rest outcome.state
      return outcome :: outcomes

/-- The session with empty records in all sinks. -/
def cleared (session : Session) : Session :=
  { session with
    terminals := session.terminals.map fun terminal =>
      { terminal with sink := terminal.sink.cleared } }

end Session
end RootObject
