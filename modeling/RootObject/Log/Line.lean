import RootObject.Json.Quote
import RootObject.Log.Event
import RootObject.Text.Terminal

/-!
Log lines. The compact layout shows level, part, message and fields with their roles marked by terminal
styles; the JSON layout is one object, with the message first among the fields. Neither escapes
what an event gives as text.
-/

namespace RootObject.Log

/-- The terminal style that a level is shown in. -/
def Level.style : Level → String
  | .error => "31"
  | .warn => "33"
  | .info => "32"
  | .debug => "34"
  | .trace => "35"

def faint : String → String :=
  Terminal.styled "2"

def italic : String → String :=
  Terminal.styled "3"

namespace Value

def boolText (value : Bool) : String :=
  if value then "true" else "false"

def compact : Value → String
  | text shown => shown
  | string value => quoted value
  | number value => Decimal.ofInt value
  | flag value => boolText value

def json : Value → String
  | text shown => Json.quote shown
  | string value => Json.quote value
  | number value => Decimal.ofInt value
  | flag value => boolText value

end Value

namespace Event

/-- The level in five columns, the part, the message, and the fields. -/
def compact (event : Event) : String :=
  let level := String.ofList (List.replicate (5 - event.level.banner.length) ' ') ++ event.level.banner
  Terminal.styled event.level.style level ++ " " ++ faint event.target.name ++ faint ":" ++ " " ++
    event.message ++
    String.join (event.fields.map fun (name, value) =>
      " " ++ italic name ++ faint "=" ++ value.compact)

/-- The event as an object, logged at the given time. -/
def json (event : Event) (time : String) : String :=
  let members := ("message", Json.quote event.message) ::
    event.fields.map fun (name, value) => (name, value.json)
  let fields := ",".intercalate (members.map fun member => Json.quote member.1 ++ ":" ++ member.2)
  "\x7b\"timestamp\":" ++ Json.quote time ++ ",\"level\":" ++ Json.quote event.level.banner ++
    ",\"fields\":\x7b" ++ fields ++ "\x7d,\"target\":" ++ Json.quote event.target.name ++ "\x7d"

/-- The line of an event. The pretty layout is the compact one with an empty line after each event. -/
def line (event : Event) (format : Format) (time : String) : String :=
  match format with
  | .pretty => event.compact ++ "\n\n"
  | .compact => event.compact ++ "\n"
  | .json => event.json time ++ "\n"

end Event

/-- The lines of the events that the settings let through. -/
def Settings.lines (settings : Settings) (time : String) (events : List Event) : String :=
  String.join ((settings.shown events).map fun event => event.line settings.format time)

end RootObject.Log
