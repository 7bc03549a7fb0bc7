/-!
What may stand on the command line: the commands, the switches of each level, and the arguments that
commands take without a switch. The program's own level comes first; a command's name opens the level
of that command.
-/

namespace RootObject.CommandLine

/-- What a command is called by. -/
inductive Verb where
  | print
  | printBool
  | printInt32
  | inputLine
  | inputBool
  | inputInt32
  | vtable
  deriving DecidableEq, Repr

/-- An argument that is told by its place. -/
inductive Operand where
  | text
  | bool
  | int32
  deriving DecidableEq, Repr

namespace Operand

def placeholder : Operand → String
  | .text => "<TEXT>"
  | .bool | .int32 => "<VALUE>"

/-- Whether it may look like a switch, as negative numbers do. -/
def mayStartWithHyphen : Operand → Bool
  | .text | .int32 => true
  | .bool => false

end Operand

namespace Verb

def all : List Verb :=
  [.print, .printBool, .printInt32, .inputLine, .inputBool, .inputInt32, .vtable]

def name : Verb → String
  | .print => "print"
  | .printBool => "print-bool"
  | .printInt32 => "print-int32"
  | .inputLine => "input-line"
  | .inputBool => "input-bool"
  | .inputInt32 => "input-int32"
  | .vtable => "vtable"

def about : Verb → String
  | .print => "Print TEXT verbatim (no newline)"
  | .printBool => "Print `true` or `false`"
  | .printInt32 => "Print a 32-bit integer in decimal (accepts VSOP literals such as 0x2A)"
  | .inputLine => "Read lines from stdin and echo them"
  | .inputBool => "Read booleans from stdin and echo them"
  | .inputInt32 => "Read integers from stdin and echo them in decimal"
  | .vtable => "List the slots of the Object dispatch table"

def operand? : Verb → Option Operand
  | .print => some .text
  | .printBool => some .bool
  | .printInt32 => some .int32
  | .inputLine | .inputBool | .inputInt32 | .vtable => none

/-- Whether the command can be asked to do its work several times. -/
def repeats : Verb → Bool
  | .inputLine | .inputBool | .inputInt32 => true
  | .print | .printBool | .printInt32 | .vtable => false

end Verb

/-- A switch with a value. -/
inductive Setting where
  | config
  | logFormat
  | count
  deriving DecidableEq, Repr

namespace Setting

def name : Setting → String
  | .config => "config"
  | .logFormat => "log-format"
  | .count => "count"

/-- What stands for the value in messages and help. -/
def placeholder : Setting → String
  | .config => "<CONFIG>"
  | .logFormat => "<LOG_FORMAT>"
  | .count => "<COUNT>"

end Setting

/-- A switch without a value. It has a letter too, by which it may stand in a group. -/
inductive Flag where
  | verbose
  | help
  | version
  deriving DecidableEq, Repr

namespace Flag

def name : Flag → String
  | .verbose => "verbose"
  | .help => "help"
  | .version => "version"

def letter : Flag → Char
  | .verbose => 'v'
  | .help => 'h'
  | .version => 'V'

/-- Whether more of it means more. -/
def accumulates (flag : Flag) : Bool :=
  flag = .verbose

end Flag

inductive Switch where
  | setting (setting : Setting)
  | flag (flag : Flag)
  deriving DecidableEq, Repr

namespace Switch

def name : Switch → String
  | .setting key => key.name
  | .flag key => key.name

/-- The switch as messages and help show it. -/
def text (switch : Switch) : String :=
  "--" ++ switch.name ++
    match switch with
    | .setting key => " " ++ key.placeholder
    | .flag key => if key.accumulates then "..." else ""

end Switch

/-- What the switches and operands of a stretch of the command line belong to. -/
inductive Level where
  | program
  | command (verb : Verb)
  deriving DecidableEq, Repr

namespace Level

/-- The switches of a level, in the order in which help lists them. -/
def switches : Level → List Switch
  | .program =>
      [.setting .config, .flag .verbose, .setting .logFormat, .flag .help, .flag .version]
  | .command verb =>
      (if verb.repeats then [.setting .count] else []) ++
        [.flag .verbose, .setting .logFormat, .flag .help]

def operand? : Level → Option Operand
  | .program => none
  | .command verb => verb.operand?

/-- The switch of a level that has a name. -/
def switchNamed? (level : Level) (name : String) : Option Switch :=
  level.switches.find? fun switch => switch.name = name

/-- The flag of a level that has a letter. -/
def flagLettered? (level : Level) (letter : Char) : Option Flag :=
  level.switches.findSome? fun
    | .flag flag => if flag.letter = letter then some flag else none
    | .setting _ => none

end Level

/-- What a name on the program's level calls. -/
inductive Entry where
  | command (verb : Verb)
  /-- Help, asked for as a command. -/
  | help
  deriving DecidableEq, Repr

namespace Entry

/-- All entries, in the order in which help lists them. -/
def all : List Entry :=
  Verb.all.map .command ++ [.help]

def name : Entry → String
  | .command verb => verb.name
  | .help => "help"

def about : Entry → String
  | .command verb => verb.about
  | .help => "Print this message or the help of the given subcommand(s)"

def ofName? (name : String) : Option Entry :=
  all.find? fun entry => entry.name = name

theorem ofName?_name (entry : Entry) : ofName? entry.name = some entry := by
  rcases entry with ⟨_ | _⟩ | _ <;> decide

end Entry

/-- What help is about. -/
inductive Topic where
  | program
  | entry (entry : Entry)
  deriving DecidableEq, Repr

/-- The help that a switch of the level asks for. -/
def Level.topic : Level → Topic
  | .program => .program
  | .command verb => .entry (.command verb)

end RootObject.CommandLine
