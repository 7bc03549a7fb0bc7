/-!
What is logged, and how: levels, the parts of the program that log, and the settings that choose a
level for each part. Every text that starts with a part's name follows the part; all other names
have the general level.
-/

namespace RootObject.Log

/-- From the rarest to the most frequent. -/
inductive Level where
  | error
  | warn
  | info
  | debug
  | trace
  deriving DecidableEq, Repr

namespace Level

def all : List Level :=
  [.error, .warn, .info, .debug, .trace]

def rank : Level → Nat
  | .error => 0
  | .warn => 1
  | .info => 2
  | .debug => 3
  | .trace => 4

/-- The name in settings. -/
def name : Level → String
  | .error => "error"
  | .warn => "warn"
  | .info => "info"
  | .debug => "debug"
  | .trace => "trace"

/-- The name with a capital, as values show it. -/
def label : Level → String
  | .error => "Error"
  | .warn => "Warn"
  | .info => "Info"
  | .debug => "Debug"
  | .trace => "Trace"

/-- The name in log lines. -/
def banner : Level → String
  | .error => "ERROR"
  | .warn => "WARN"
  | .info => "INFO"
  | .debug => "DEBUG"
  | .trace => "TRACE"

def ofName? (name : String) : Option Level :=
  all.find? fun level => level.name = name

/-- The more talkative of two levels. -/
def max (a b : Level) : Level :=
  if a.rank < b.rank then b else a

end Level

/-- How an event is laid out. -/
inductive Format where
  | pretty
  | compact
  | json
  deriving DecidableEq, Repr

namespace Format

def all : List Format :=
  [.pretty, .compact, .json]

def name : Format → String
  | .pretty => "pretty"
  | .compact => "compact"
  | .json => "json"

def label : Format → String
  | .pretty => "Pretty"
  | .compact => "Compact"
  | .json => "Json"

def ofName? (name : String) : Option Format :=
  all.find? fun format => format.name = name

end Format

/-- A part of the program that logs. -/
inductive Target where
  | object
  | io
  | dispatch
  | host
  deriving DecidableEq, Repr

namespace Target

def all : List Target :=
  [.object, .io, .dispatch, .host]

def name : Target → String
  | .object => "vsop::object"
  | .io => "vsop::io"
  | .dispatch => "vsop::dispatch"
  | .host => "vsop::host"

end Target

structure Settings where
  level : Level := .warn
  format : Format := .compact
  object : Option Level := none
  io : Option Level := none
  dispatch : Option Level := none
  deriving DecidableEq, Repr

namespace Settings

/-- The level of a part: its own, or the general one where it has none. The host has none. -/
def levelFor (settings : Settings) : Target → Level
  | .object => settings.object.getD settings.level
  | .io => settings.io.getD settings.level
  | .dispatch => settings.dispatch.getD settings.level
  | .host => settings.level

/-- The level of whatever bears the name. -/
def levelOf (settings : Settings) (name : String) : Level :=
  match Target.all.find? fun target => target.name.toList.isPrefixOf name.toList with
  | some target => settings.levelFor target
  | none => settings.level

/-- Whether an event of the level is let through for the name. -/
def enables (settings : Settings) (name : String) (level : Level) : Bool :=
  level.rank ≤ (settings.levelOf name).rank

end Settings
end RootObject.Log
