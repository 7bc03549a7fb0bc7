import RootObject.IoError
import RootObject.Literal
import RootObject.Method
import RootObject.Text.Decimal

/-!
The faults that calls of the root operations end in. A fault names the method it arose in; a host
that does not handle it shows its message and leaves with its exit code.
-/

namespace RootObject

/-- What an input operation expected to read. -/
inductive LiteralKind where
  | boolean
  | integer
  deriving DecidableEq, Repr

namespace LiteralKind

def description : LiteralKind → String
  | .boolean => "boolean"
  | .integer => "integer literal"

def label : LiteralKind → String
  | .boolean => "Boolean"
  | .integer => "Integer"

end LiteralKind

/-- Why a stream could not deliver a piece of text. -/
inductive ReadError where
  /-- There was no memory for a buffer of so many bytes. -/
  | exhausted (requested : Nat)
  | io (error : IoError)
  deriving DecidableEq, Repr

def ReadError.message : ReadError → String
  | .exhausted requested => "cannot grow input buffer to " ++ Decimal.ofNat requested ++ " bytes"
  | .io error => error.message

inductive Fault where
  | malformedToken (method : Method) (token : String) (expected : LiteralKind)
  | outOfRange (method : Method) (token : String)
  | resourceExhausted (method : Method) (requested : Nat)
  | io (method : Method) (error : IoError)
  deriving DecidableEq, Repr

namespace Fault

/-- A token that is no literal of the expected kind. -/
def ofLiteral (method : Method) (token : String) (expected : LiteralKind) : LiteralError → Fault
  | .malformed => .malformedToken method token expected
  | .outOfRange => .outOfRange method token

def ofRead (method : Method) : ReadError → Fault
  | .exhausted requested => .resourceExhausted method requested
  | .io error => .io method error

def kindName : Fault → String
  | .malformedToken .. => "MalformedToken"
  | .outOfRange .. => "OutOfRange"
  | .resourceExhausted .. => "ResourceExhausted"
  | .io .. => "Io"

def method : Fault → Method
  | .malformedToken method .. | .outOfRange method _ | .resourceExhausted method _ | .io method _ =>
      method

/-- The token that was refused, where one was. -/
def token? : Fault → Option String
  | .malformedToken _ token _ | .outOfRange _ token => some token
  | .resourceExhausted .. | .io .. => none

/-- What went wrong below the operation, where it was a source or a sink. -/
def cause? : Fault → Option IoError
  | .io _ error => some error
  | _ => none

def exitCode (_ : Fault) : Nat := 1

def message (fault : Fault) : String :=
  fault.method.qualifiedName ++ ": " ++
    match fault with
    | .malformedToken _ token expected =>
        "`" ++ token ++ "` is not a valid " ++ expected.description ++ "!"
    | .outOfRange _ token => "`" ++ token ++ "` does not fit a 32-bit integer!"
    | .resourceExhausted .. => "cannot read word!"
    | .io _ error => error.message

/-- The fault as a value, with all it carries. -/
def text (fault : Fault) : String :=
  recordText fault.kindName <| ("method", fault.method.label) ::
    match fault with
    | .malformedToken _ token expected => [("token", quoted token), ("expected", expected.label)]
    | .outOfRange _ token => [("token", quoted token)]
    | .resourceExhausted _ requested => [("requested", Decimal.ofNat requested)]
    | .io _ error => [("source", error.text)]

end Fault
end RootObject
