import RootObject.Console

/-!
The root class's own implementations of the six methods. They work on a console alone and end in
faults; what a printing method returns is its receiver.
-/

namespace RootObject

namespace Method

/-- What a method is called with. -/
abbrev Argument : Method → Type
  | .print => String
  | .printBool => Bool
  | .printInt32 => Int32
  | .inputLine | .inputBool | .inputInt32 => Unit

end Method

/-- An object that a printing method returns: the one it was called on, or a plain instance of the root
class. -/
inductive Receiver where
  | self
  | root
  deriving DecidableEq, Repr

namespace Method

/-- What a method returns. -/
abbrev Reply : Method → Type
  | .print | .printBool | .printInt32 => Receiver
  | .inputLine => String
  | .inputBool => Bool
  | .inputInt32 => Int32

end Method

namespace Base

/-- Writes a text for a method. -/
def write (method : Method) (text : String) : Action Console Fault Receiver := do
  (Console.write text).mapError (Fault.io method)
  return .self

def print (text : String) : Action Console Fault Receiver :=
  write .print text

def printBool (value : Bool) : Action Console Fault Receiver :=
  write .printBool (if value then "true" else "false")

def printInt32 (value : Int32) : Action Console Fault Receiver :=
  write .printInt32 (Decimal.ofInt value.toInt)

def inputLine : Action Console Fault String :=
  Console.readLine.mapError (Fault.ofRead .inputLine)

/-- Reads a token for a method. -/
def readWord (method : Method) : Action Console Fault String :=
  Console.readToken.mapError (Fault.ofRead method)

/-- Reads a token for a method as a literal of the kind that is expected, and logs its value. -/
def inputLiteral {α : Type} (method : Method) (expected : LiteralKind)
    (parse : String → Except LiteralError α) (parsed : α → Log.Event) : Action Console Fault α := do
  let token ← readWord method
  match parse token with
  | .ok value =>
      Action.emit (parsed value)
      return value
  | .error error => Action.fail (Fault.ofLiteral method token expected error)

def inputBool : Action Console Fault Bool :=
  inputLiteral .inputBool .boolean parseBool (.booleanParsed .inputBool)

def inputInt32 : Action Console Fault Int32 :=
  inputLiteral .inputInt32 .integer parseInt32 (.integerParsed .inputInt32)

/-- The implementation of each method. -/
def call : (method : Method) → method.Argument → Action Console Fault method.Reply
  | .print => print
  | .printBool => printBool
  | .printInt32 => printInt32
  | .inputLine => fun _ => inputLine
  | .inputBool => fun _ => inputBool
  | .inputInt32 => fun _ => inputInt32

end Base
end RootObject
