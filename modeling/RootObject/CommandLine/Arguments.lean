import RootObject.CommandLine.Command
import RootObject.CommandLine.UsageError
import RootObject.Log.Settings

/-!
Reading the arguments of a command line, from left to right. An argument that starts with two hyphens
names a switch, up to its first `=` if it has one, after which the switch's value stands; one that
starts with a single hyphen is a group of letters; all else is a value or an operand. After `--` there
are operands only.

A value or operand is not looked into where it stands, but when the next switch or operand of its level
has been recognised, or at the level's end. So of two faults the left one is told, except that an
argument that its level has no place for is told before a bad value right in front of it, and a
fault of the command's level before a bad value at the end of the program's level.
-/

namespace RootObject.CommandLine

/-! ### What is asked for -/

/-- The run of a command. -/
structure Invocation where
  /-- The path of a configuration file. -/
  config : Option String
  verbosity : Nat
  format : Option Log.Format
  command : Command
  deriving DecidableEq, Repr

/-- Why a command line leads to no run. -/
inductive Diversion where
  | help (topic : Topic)
  | version
  /-- Nothing was asked for, and nothing set. -/
  | nothingAsked
  | refusal (error : UsageError)
  deriving DecidableEq, Repr

def refuse {α : Type} (error : UsageError) : Except Diversion α :=
  .error (.refusal error)

/-! ### Arguments by their look -/

inductive Shape where
  | dashes
  | long (name : String) (value : Option String)
  /-- At least one letter. -/
  | group (letters : List Char)
  | plain
  deriving DecidableEq, Repr

/-- The name and the value of a long switch, divided at the first `=`. -/
def splitAssignment (text : List Char) : String × Option String :=
  match text.dropWhile (· ≠ '=') with
  | [] => (String.ofList text, none)
  | _ :: value => (String.ofList (text.takeWhile (· ≠ '=')), some (String.ofList value))

/-- A single hyphen is plain. -/
def Shape.of (argument : String) : Shape :=
  match argument.toList with
  | ['-', '-'] => .dashes
  | '-' :: '-' :: rest =>
      let (name, value) := splitAssignment rest
      .long name value
  | '-' :: letter :: letters => .group (letter :: letters)
  | _ => .plain

/-! ### Values -/

/-- The number that digits denote after `value`. The first digit that is none, or that makes the number
too large, is told. -/
def countAfter (value : Nat) : List Char → Except CountError Nat
  | [] => .ok value
  | c :: rest =>
      match Literal.digitValue? 10 c with
      | none => .error .notDigits
      | some digit =>
          let value := value * 10 + digit
          if value ≤ 0xFFFFFFFFFFFFFFFF then countAfter value rest else .error .tooLarge

/-- A count may have a plus sign. -/
def parseCount (text : String) : Except CountError Nat :=
  match text.toList with
  | [] => .error .empty
  | ['+'] => .error .notDigits
  | '+' :: digits => countAfter 0 digits
  | digits => countAfter 0 digits

/-- What the arguments of a level have set. -/
structure Given where
  config : Option String := none
  verbosity : Nat := 0
  format : Option Log.Format := none
  count : Option Nat := none
  /-- The command, once its operand is known. -/
  command : Option Command := none
  deriving DecidableEq, Repr

namespace Given

/-- Whether anything is set that the program's level can set. -/
def isEmpty (given : Given) : Bool :=
  given.config.isNone && given.verbosity = 0 && given.format.isNone

def isSet (given : Given) : Setting → Bool
  | .config => given.config.isSome
  | .logFormat => given.format.isSome
  | .count => given.count.isSome

/-- Takes in the value of a setting that has none yet. -/
def set (given : Given) (setting : Setting) (value : String) : Except Diversion Given :=
  if given.isSet setting then refuse (.repeated setting)
  else match setting with
    | .config =>
        if value.isEmpty then refuse (.valueMissing .config)
        else .ok { given with config := some value }
    | .logFormat =>
        if value.isEmpty then refuse (.valueMissing .logFormat)
        else match Log.Format.ofName? value with
          | some format => .ok { given with format := some format }
          | none => refuse (.notFormat value)
    | .count =>
        match parseCount value with
        | .ok count => .ok { given with count := some count }
        | .error error => refuse (.notCount value error)

/-- Takes in an operand. -/
def take (given : Given) (operand : Operand) (value : String) : Except Diversion Given :=
  match operand with
  | .text => .ok { given with command := some (.print value) }
  | .bool =>
      match parseBool value with
      | .ok flag => .ok { given with command := some (.printBool flag) }
      | .error _ => refuse (.notBool value)
  | .int32 =>
      match parseInt32 value with
      | .ok number => .ok { given with command := some (.printInt32 number) }
      | .error error => refuse (.notInt32 value error)

end Given

/-! ### Arguments of one level -/

/-- What stands on the command line and has not been looked into. -/
inductive Pending where
  | nothing
  /-- A setting whose value the next argument is. -/
  | setting (setting : Setting)
  | value (setting : Setting) (value : String)
  | operand (operand : Operand) (value : String)
  deriving DecidableEq, Repr

structure Progress where
  given : Given := {}
  pending : Pending := .nothing
  deriving DecidableEq, Repr

namespace Progress

/-- Looks into what was left pending. -/
def settled (progress : Progress) : Except Diversion Given :=
  match progress.pending with
  | .nothing => .ok progress.given
  | .setting setting => refuse (.valueMissing setting)
  | .value setting value => progress.given.set setting value
  | .operand operand value => progress.given.take operand value

def flag (level : Level) (progress : Progress) (flag : Flag) : Except Diversion Progress := do
  let given ← progress.settled
  match flag with
  | .verbose => return { given := { given with verbosity := given.verbosity + 1 } }
  | .help => .error (.help level.topic)
  | .version => .error .version

def switch (level : Level) (progress : Progress) :
    Switch → Option String → Except Diversion Progress
  | .flag flag, none => progress.flag level flag
  | .flag flag, some value => refuse (.valueUnexpected flag value)
  | .setting setting, none => do
      return { given := ← progress.settled, pending := .setting setting }
  | .setting setting, some value => do
      return { given := ← (← progress.settled).set setting value }

/-- The operand that the level still has a place for. -/
def operandAwaited? (level : Level) (progress : Progress) : Option Operand :=
  match progress.pending with
  | .operand .. => none
  | _ => if progress.given.command.isSome then none else level.operand?

/-- Takes an argument for an operand. -/
def operand (level : Level) (progress : Progress) (argument : String) : Except Diversion Progress :=
  match progress.operandAwaited? level with
  | some operand => do
      return { given := ← progress.settled, pending := .operand operand argument }
  | none =>
      refuse <| match level with
        | .program => .commandUnknown argument
        | .command _ => .unexpected argument

/-- Takes an argument for the value that is waited for, or else for an operand. -/
def plain (level : Level) (progress : Progress) (argument : String) : Except Diversion Progress :=
  match progress.pending with
  | .setting setting => .ok { progress with pending := .value setting argument }
  | _ => progress.operand level argument

/-- Whether an argument that is no switch of the level may be taken for an operand though it looks like
one. -/
def takesHyphens (level : Level) (progress : Progress) : Bool :=
  (progress.operandAwaited? level).any Operand.mayStartWithHyphen

/-- Takes an argument in front of `--`, and not `--` itself. -/
def argument (level : Level) (progress : Progress) (argument : String) : Except Diversion Progress :=
  match Shape.of argument with
  | .long name value =>
      match level.switchNamed? name with
      | some switch => progress.switch level switch value
      | none =>
          if progress.takesHyphens level then progress.plain level argument
          else refuse (.unexpected ("--" ++ name))
  | .group letters =>
      if progress.takesHyphens level && letters.any fun letter => (level.flagLettered? letter).isNone
      then progress.plain level argument
      else letters.foldlM (fun progress letter =>
        match level.flagLettered? letter with
        | some flag => progress.flag level flag
        | none => refuse (.unexpected ("-" ++ String.singleton letter))) progress
  | .dashes | .plain => progress.plain level argument

end Progress

/-! ### The command line -/

/-- Reads the arguments behind a command's name. -/
def readOperands (verb : Verb) (progress : Progress) : List String → Except Diversion Progress
  | [] => .ok progress
  | argument :: rest =>
      if Shape.of argument = .dashes then rest.foldlM (Progress.operand (.command verb)) progress
      else do readOperands verb (← progress.argument (.command verb) argument) rest

/-- The command of a verb. -/
def Given.commandOf (given : Given) (verb : Verb) : Except Diversion Command :=
  let count := given.count.getD 1
  match verb with
  | .print | .printBool | .printInt32 =>
      match given.command with
      | some command => .ok command
      | none => refuse .operandMissing
  | .inputLine => .ok (.inputLine count)
  | .inputBool => .ok (.inputBool count)
  | .inputInt32 => .ok (.inputInt32 count)
  | .vtable => .ok .vtable

/-- What the names behind `help` lead to. No command has commands of its own. -/
def helpOn : List String → Diversion
  | [] => .help .program
  | name :: rest =>
      match Entry.ofName? name, rest with
      | none, _ => .refusal (.commandUnknown name)
      | some entry, [] => .help (.entry entry)
      | some _, surplus :: _ => .refusal (.commandUnknown surplus)

/-- What an argument on the program's level calls, unless it is the value that is waited for. -/
def Progress.entry? (progress : Progress) (argument : String) : Option Entry :=
  match progress.pending with
  | .setting _ => none
  | _ => Entry.ofName? argument

/-- Reads the arguments of a command line, of which those before have made the given progress. What the
command's level sets has precedence over what the program's level sets. -/
def readFrom (progress : Progress) : List String → Except Diversion Invocation
  | [] => unasked
  | argument :: rest =>
      match progress.entry? argument with
      | some .help => .error (helpOn rest)
      | some (.command verb) => do
          let own ← (← readOperands verb {} rest).settled
          let command ← own.commandOf verb
          let given ← progress.settled
          return {
            config := given.config
            verbosity := if own.verbosity = 0 then given.verbosity else own.verbosity
            format := own.format.or given.format
            command }
      | none =>
          match Shape.of argument, rest with
          | .dashes, [] => unasked
          | .dashes, name :: _ =>
              refuse (if (Entry.ofName? name).isSome then .unexpected name else .commandUnknown name)
          | _, _ => do readFrom (← progress.argument .program argument) rest
where
  /-- The end of a command line without a command. -/
  unasked : Except Diversion Invocation := do
    let given ← progress.settled
    if given.isEmpty then .error .nothingAsked else refuse .commandMissing

/-- What a command line asks for. -/
def read (arguments : List String) : Except Diversion Invocation :=
  readFrom {} arguments

end RootObject.CommandLine
