import RootObject.CommandLine.Grammar
import RootObject.Log.Settings

/-!
Help texts. A text tells what its topic is about and how it is used, then lists commands, arguments and
switches in tables of two columns, the second of which starts two columns behind the widest entry of
the first.
-/

namespace RootObject.CommandLine

def programName : String := "vsop-object"

def versionText : String :=
  programName ++ " 0.1.0\n"

namespace Help

/-- A text filled up to a width with blanks. -/
def padded (width : Nat) (text : String) : String :=
  text ++ String.ofList (List.replicate (width - text.length) ' ')

/-- A table under its title; nothing where there are no rows. -/
def table (title : String) (rows : List (String × String)) : String :=
  if rows.isEmpty then ""
  else
    let width := rows.foldl (fun width row => max width row.1.length) 0
    "\n" ++ title ++ ":\n" ++
      String.join (rows.map fun row => "  " ++ padded width row.1 ++ "  " ++ row.2 ++ "\n")

def switchAbout : Switch → String
  | .setting .config => "JSON configuration file"
  | .setting .logFormat =>
      "Log output format [possible values: " ++ ", ".intercalate (Log.Format.all.map (·.name)) ++ "]"
  | .setting .count => "[default: 1]"
  | .flag .verbose => "Log verbosity (-v info, -vv debug, -vvv trace); logs go to stderr"
  | .flag .help => "Print help"
  | .flag .version => "Print version"

/-- A switch with its letter, or with blanks for one. -/
def switchLabel (switch : Switch) : String :=
  (match switch with
    | .setting _ => "    "
    | .flag flag => "-" ++ String.singleton flag.letter ++ ", ") ++ switch.text

end Help

namespace Topic

def about : Topic → String
  | .program => "Call VSOP root Object methods over stdin/stdout"
  | .entry called => called.about

/-- What a call looks like. -/
def usage (topic : Topic) : String :=
  programName ++
    match topic with
    | .program => " [OPTIONS] <COMMAND>"
    | .entry (.command verb) =>
        " " ++ verb.name ++ " [OPTIONS]" ++
          match verb.operand? with
          | some operand => " " ++ operand.placeholder
          | none => ""
    | .entry .help => " help [COMMAND]..."

def commands : Topic → List Entry
  | .program => Entry.all
  | .entry _ => []

/-- Arguments without a switch, and what is said of them. -/
def operands : Topic → List (String × String)
  | .program => []
  | .entry (.command verb) => verb.operand?.toList.map fun operand => (operand.placeholder, "")
  | .entry .help => [("[COMMAND]...", "Print help for the subcommand(s)")]

def switches : Topic → List Switch
  | .program => Level.program.switches
  | .entry (.command verb) => (Level.command verb).switches
  | .entry .help => []

def help (topic : Topic) : String :=
  topic.about ++ "\n\nUsage: " ++ topic.usage ++ "\n" ++
    Help.table "Commands" (topic.commands.map fun entry => (entry.name, entry.about)) ++
    Help.table "Arguments" topic.operands ++
    Help.table "Options" (topic.switches.map fun switch =>
      (Help.switchLabel switch, Help.switchAbout switch))

end Topic
end RootObject.CommandLine
