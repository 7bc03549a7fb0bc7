import RootObject.CommandLine.Grammar
import RootObject.Literal
import RootObject.Text.Terminal

/-!
Why a command line is refused, and what a user is told of it. Parts of the command line stand in a
message between quotes and in a style of their own.
-/

namespace RootObject.CommandLine

/-- Why a text is no count. -/
inductive CountError where
  | empty
  | notDigits
  /-- It needs more than 64 bits. -/
  | tooLarge
  deriving DecidableEq, Repr

def CountError.message : CountError → String
  | .empty => "cannot parse integer from empty string"
  | .notDigits => "invalid digit found in string"
  | .tooLarge => "number too large to fit in target type"

inductive UsageError where
  | commandMissing
  | commandUnknown (name : String)
  | unexpected (argument : String)
  /-- A value was attached to a flag. -/
  | valueUnexpected (flag : Flag) (value : String)
  | valueMissing (setting : Setting)
  | repeated (setting : Setting)
  | operandMissing
  | notFormat (value : String)
  | notCount (value : String) (error : CountError)
  | notBool (value : String)
  | notInt32 (value : String) (error : LiteralError)
  deriving DecidableEq, Repr

namespace UsageError

/-- A part of the command line within a message. -/
def marked (text : String) : String :=
  "'" ++ Terminal.styled "1" text ++ "'"

/-- The common start of the messages on values. -/
def invalid (value place : String) : String :=
  "invalid value " ++ marked value ++ " for " ++ marked place

def message : UsageError → String
  | commandMissing => marked "vsop-object" ++ " requires a subcommand but one was not provided"
  | commandUnknown name => "unrecognized subcommand " ++ marked name
  | unexpected argument => "unexpected argument " ++ marked argument ++ " found"
  | valueUnexpected flag value =>
      "unexpected value " ++ marked value ++ " for " ++ marked (Switch.flag flag).text ++
        " found; no more were expected"
  | valueMissing setting =>
      "a value is required for " ++ marked (Switch.setting setting).text ++ " but none was supplied"
  | repeated setting =>
      "the argument " ++ marked (Switch.setting setting).text ++ " cannot be used multiple times"
  | operandMissing => "the following required arguments were not provided:"
  | notFormat value => invalid value (Switch.setting .logFormat).text
  | notCount value error => invalid value (Switch.setting .count).text ++ ": " ++ error.message
  | notBool value =>
      invalid value Operand.bool.placeholder ++ ": `" ++ value ++ "` is not a valid boolean"
  | notInt32 value error =>
      invalid value Operand.int32.placeholder ++ ": `" ++ value ++ "`: " ++ error.message

/-- What a user is told, with the styles of a terminal: the message, and where to find help. A value may
bring control sequences of its own, which the style behind it ends. -/
def report (error : UsageError) : String :=
  Terminal.styled "1;31" "error:" ++ " " ++ error.message ++ "\n\nFor more information, try " ++
    marked "--help" ++ ".\n"

end UsageError
end RootObject.CommandLine
