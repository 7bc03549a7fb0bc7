import RootObject.Config
import RootObject.Text.Decimal
import RootObject.Text.Quoted

/-!
Two texts of a configuration: its JSON document, with every field in its fixed order and no blanks, and
its text as a value.
-/

namespace RootObject.Config

/-- A JSON object of fields with the texts of their values. -/
def jsonObject (fields : List (String × String)) : String :=
  "\x7b" ++ ",".intercalate (fields.map fun field => "\"" ++ field.1 ++ "\":" ++ field.2) ++ "\x7d"

/-- A name as a JSON string. Names of variants need no escapes. -/
def jsonName (name : String) : String :=
  "\"" ++ name ++ "\""

def boolText (value : Bool) : String :=
  if value then "true" else "false"

/-- The JSON document of a configuration. -/
def json (config : Config) : String :=
  let level? (level : Option Log.Level) : String :=
    match level with
    | some level => jsonName level.name
    | none => "null"
  jsonObject [
    ("input", jsonObject [
      ("initial_capacity", Decimal.ofNat config.input.initialCapacity),
      ("line_terminator", jsonName config.input.lineTerminator.name)]),
    ("output", jsonObject [
      ("flush_before_input", boolText config.output.flushBeforeInput)]),
    ("log", jsonObject [
      ("level", jsonName config.log.level.name),
      ("format", jsonName config.log.format.name),
      ("object", level? config.log.object),
      ("io", level? config.log.io),
      ("dispatch", level? config.log.dispatch)])]

/-- The configuration as a value. -/
def text (config : Config) : String :=
  let level? (level : Option Log.Level) : String :=
    match level with
    | some level => "Some(" ++ level.label ++ ")"
    | none => "None"
  recordText "RuntimeConfig" [
    ("input", recordText "InputConfig" [
      ("initial_capacity", Decimal.ofNat config.input.initialCapacity),
      ("line_terminator", config.input.lineTerminator.label)]),
    ("output", recordText "OutputConfig" [
      ("flush_before_input", boolText config.output.flushBeforeInput)]),
    ("log", recordText "LogConfig" [
      ("level", config.log.level.label),
      ("format", config.log.format.label),
      ("object", level? config.log.object),
      ("io", level? config.log.io),
      ("dispatch", level? config.log.dispatch)])]

end RootObject.Config
