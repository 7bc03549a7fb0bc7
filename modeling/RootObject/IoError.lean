import RootObject.Text.Quoted

/-!
Failures that sources and sinks report: a kind, and a message of its own or the standard
description of the kind.
-/

namespace RootObject

namespace IoError

inductive Kind where
  | brokenPipe
  | wouldBlock
  | timedOut
  | unexpectedEof
  | permissionDenied
  | invalidData
  | interrupted
  | writeZero
  | other
  deriving DecidableEq, Repr

namespace Kind

def all : List Kind :=
  [.brokenPipe, .wouldBlock, .timedOut, .unexpectedEof, .permissionDenied, .invalidData,
    .interrupted, .writeZero, .other]

def name : Kind → String
  | .brokenPipe => "BrokenPipe"
  | .wouldBlock => "WouldBlock"
  | .timedOut => "TimedOut"
  | .unexpectedEof => "UnexpectedEof"
  | .permissionDenied => "PermissionDenied"
  | .invalidData => "InvalidData"
  | .interrupted => "Interrupted"
  | .writeZero => "WriteZero"
  | .other => "Other"

def description : Kind → String
  | .brokenPipe => "broken pipe"
  | .wouldBlock => "operation would block"
  | .timedOut => "timed out"
  | .unexpectedEof => "unexpected end of file"
  | .permissionDenied => "permission denied"
  | .invalidData => "invalid data"
  | .interrupted => "operation interrupted"
  | .writeZero => "write zero"
  | .other => "other error"

def ofName? (name : String) : Option Kind :=
  all.find? fun kind => kind.name = name

theorem ofName?_name (kind : Kind) : ofName? kind.name = some kind := by
  cases kind <;> decide

end Kind

end IoError

structure IoError where
  kind : IoError.Kind
  detail : Option String := none
  deriving DecidableEq, Repr

namespace IoError

/-- A sink took no byte of a text that was not empty. -/
def nothingAccepted : IoError :=
  ⟨.writeZero, some "failed to write whole buffer"⟩

/-- Whether the call may simply be made again. -/
def isInterruption (error : IoError) : Bool :=
  error.kind = .interrupted

def message (error : IoError) : String :=
  error.detail.getD error.kind.description

/-- The error as a value: its kind, with the message if it has one of its own. -/
def text (error : IoError) : String :=
  match error.detail with
  | none => "Kind(" ++ error.kind.name ++ ")"
  | some detail => recordText "Custom" [("kind", error.kind.name), ("error", quoted detail)]

end IoError
end RootObject
