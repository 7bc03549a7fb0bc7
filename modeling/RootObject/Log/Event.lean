import RootObject.Fault
import RootObject.Log.Settings

/-!
The events that the program logs. An event knows its part of the program, its level, its message and
its fields; which events are shown is the business of the settings, and how, of the line layouts.
-/

namespace RootObject.Log

inductive Event where
  /-- A source delivered nothing more; logged once for a stream. -/
  | endOfStream
  /-- The input buffer was full and was made larger. -/
  | bufferGrown (before after : Nat)
  /-- A line was read, of so many bytes once decoded. -/
  | lineRead (length : Nat)
  | tokenRead (token : String)
  | booleanParsed (method : Method) (value : Bool)
  | integerParsed (method : Method) (value : Int32)
  | tableRegistered (name : String) (parent : Option String) (overrides : List Method)
  /-- A command is about to run. -/
  | starting (command : String)
  /-- A fault that nobody handled ends the process. -/
  | fatal (fault : Fault)
  deriving DecidableEq, Repr

/-- The value of a field. A string is data and is quoted where values are shown; a text is already the
form to show. -/
inductive Value where
  | text (shown : String)
  | string (value : String)
  | number (value : Int)
  | flag (value : Bool)
  deriving DecidableEq, Repr

namespace Event

def target : Event → Target
  | endOfStream | bufferGrown .. | lineRead _ | tokenRead _ => .io
  | booleanParsed .. | integerParsed .. => .object
  | tableRegistered .. => .dispatch
  | starting _ | fatal _ => .host

def level : Event → Level
  | endOfStream | bufferGrown .. => .trace
  | starting _ => .info
  | lineRead _ | tokenRead _ | booleanParsed .. | integerParsed .. | tableRegistered .. | fatal _ =>
      .debug

def message : Event → String
  | endOfStream => "end of stream"
  | bufferGrown .. => "grew input buffer"
  | lineRead _ => "read line"
  | tokenRead _ => "read token"
  | booleanParsed .. => "parsed boolean"
  | integerParsed .. => "parsed integer"
  | tableRegistered .. => "registered dispatch table"
  | starting _ => "starting"
  | fatal _ => "fatal runtime error"

/-- The fields in the order they are shown; one that is absent is left out. -/
def fields : Event → List (String × Value)
  | endOfStream => []
  | bufferGrown before after => [("from", .number before), ("to", .number after)]
  | lineRead length => [("len", .number length)]
  | tokenRead token => [("token", .text token)]
  | booleanParsed method value => [("method", .text method.qualifiedName), ("value", .flag value)]
  | integerParsed method value =>
      [("method", .text method.qualifiedName), ("value", .number value.toInt)]
  | tableRegistered name parent overrides =>
      ("ty", .string name) :: (parent.map fun parent => ("parent", Value.string parent)).toList ++
        [("overrides", .text ("[" ++ ", ".intercalate (overrides.map Method.label) ++ "]"))]
  | starting command => [("command", .text command)]
  | fatal fault =>
      [("kind", .text fault.kindName), ("method", .text fault.method.qualifiedName)] ++
        (fault.token?.map fun token => ("token", Value.string token)).toList

end Event

/-- The events that the settings let through, in order. -/
def Settings.shown (settings : Settings) (events : List Event) : List Event :=
  events.filter fun event => settings.enables event.target.name event.level

end RootObject.Log
