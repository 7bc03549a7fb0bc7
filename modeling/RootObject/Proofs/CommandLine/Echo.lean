import Mathlib.Logic.Function.Iterate
import RootObject.Proofs.CommandLine.Exit
import RootObject.Proofs.Console.Writing
import RootObject.Proofs.Literal.Grammar
import RootObject.Proofs.Text.Decimal
import RootObject.Proofs.Text.Pieces

/-!
The commands that echo literals. Each time round a token is taken and, if it is a literal, its value
is written on a line of its own; the first token that is none ends the command and stays taken
(`echo_of_denotes`, `echo_of_refused`). So what is written is told by the leading literals among the
tokens (`Leading`), whether the command gets to its end (`times_of_le`) or fails (`times_of_lt`): what it
wrote before it failed has been written, and of the token it failed at nothing is.
-/

namespace RootObject

/-- The words of some bytes, each decoded for itself. -/
def Reader.tokens (bytes : List UInt8) : List String :=
  (Pieces.words isSpace bytes).map Utf8.decode

/-- Reading a token takes the first of them; where there is none the token is empty, and nothing is
left. -/
theorem Reader.tokens_cases (bytes : List UInt8) :
    (tokens bytes = [] ∧ token bytes = [] ∧ afterToken bytes = []) ∨
      tokens bytes = Utf8.decode (token bytes) :: tokens (afterToken bytes) := by
  rcases Pieces.words_cases isSpace bytes with ⟨none, nothing⟩ | some
  · refine .inl ⟨congrArg _ none, ?_, ?_⟩
    · rw [token, nothing]
      rfl
    · rw [afterToken, nothing]
      rfl
  · exact .inr (congrArg (List.map Utf8.decode) some)

theorem Reader.getD_tokens_zero (bytes : List UInt8) :
    (tokens bytes).getD 0 "" = Utf8.decode (token bytes) := by
  rcases tokens_cases bytes with ⟨none, empty, -⟩ | some
  · rw [none, empty]
    rfl
  · rw [some, List.getD_cons_zero]

theorem Reader.getD_tokens_succ (bytes : List UInt8) (k : Nat) :
    (tokens bytes).getD (k + 1) "" = (tokens (afterToken bytes)).getD k "" := by
  rcases tokens_cases bytes with ⟨none, -, nothing⟩ | some
  · rw [none, nothing]
    rfl
  · rw [some, List.getD_cons_succ]

namespace CommandLine

open RootObject.Action

/-! ### What is echoed -/

/-- A command that echoes literals of one kind. -/
structure Echo (α : Type) where
  verb : Verb
  command : Nat → Command
  /-- The method that reads a value. -/
  method : Method
  expected : LiteralKind
  parse : String → Except LiteralError α
  parsed : α → Log.Event
  /-- The method that prints a value. -/
  printing : Method
  text : α → String
  /-- Whether a token is a literal of the value. -/
  Denotes : String → α → Prop
  /-- Whether a token is a literal, but of no value of the type. -/
  OutOfRange : String → Prop
  body_eq : ∀ n, (command n).body = Action.times n (Command.echo
    (Base.inputLiteral method expected parse parsed) fun value => Base.write printing (text value))
  repeats : verb.repeats = true
  commandOf_eq : ∀ n, Given.commandOf { count := some n } verb = .ok (command n)
  denotes_iff : ∀ token value, Denotes token value ↔ parse token = .ok value
  outOfRange_iff : ∀ token, OutOfRange token ↔ parse token = .error .outOfRange
  parse_empty : parse "" = .error .malformed

namespace Echo

def int32 : Echo Int32 where
  verb := .inputInt32
  command := .inputInt32
  method := .inputInt32
  expected := .integer
  parse := parseInt32
  parsed := .integerParsed .inputInt32
  printing := .printInt32
  text value := toString value.toInt
  Denotes token value := ∃ n, Literal.Integer token.toList n ∧ Literal.Fits n ∧ value.toInt = n
  OutOfRange token := ∃ n, Literal.Integer token.toList n ∧ ¬ Literal.Fits n
  body_eq n := by
    have printed : Base.printInt32 = fun value => Base.write .printInt32 (toString value.toInt) := by
      funext value
      rw [Base.printInt32, Decimal.ofInt_eq_toString]
    rw [Command.body, printed]
    rfl
  repeats := rfl
  commandOf_eq n := rfl
  denotes_iff token value := Literal.parseInt32_eq_ok_iff.symm
  outOfRange_iff token := Literal.parseInt32_eq_outOfRange_iff.symm
  parse_empty := by decide

def bool : Echo Bool where
  verb := .inputBool
  command := .inputBool
  method := .inputBool
  expected := .boolean
  parse := parseBool
  parsed := .booleanParsed .inputBool
  printing := .printBool
  text value := if value then "true" else "false"
  Denotes token value := token = if value then "true" else "false"
  OutOfRange token := False
  body_eq n := rfl
  repeats := rfl
  commandOf_eq n := rfl
  denotes_iff token value := Literal.parseBool_eq_ok_iff.symm
  outOfRange_iff token := ⟨False.elim, fun large => Literal.parseBool_ne_outOfRange token large⟩
  parse_empty := by decide

variable {α : Type} (echo : Echo α)

/-- What is written for some values, each on a line of its own. -/
def lines (values : List α) : List UInt8 :=
  values.flatMap fun value => Utf8.encode (echo.text value ++ "\n")

/-- The values of the tokens up to the first that is no literal. -/
inductive Leading : List String → List α → Prop where
  | nil {tokens : List String} (refused : ∀ value, ¬ echo.Denotes (tokens.headD "") value) :
      Leading tokens []
  | cons {token : String} {value : α} {tokens : List String} {values : List α}
      (denotes : echo.Denotes token value) (later : Leading tokens values) :
      Leading (token :: tokens) (value :: values)

/-- The fault of a token that is no literal of a value. -/
inductive Refuses (token : String) : Fault → Prop where
  | outOfRange (large : echo.OutOfRange token) : Refuses token (.outOfRange echo.method token)
  | malformed (no : ¬ echo.OutOfRange token) :
      Refuses token (.malformedToken echo.method token echo.expected)

variable {echo}

theorem exists_leading (tokens : List String) : ∃ values, echo.Leading tokens values := by
  induction tokens with
  | nil =>
      refine ⟨[], .nil fun value denotes => ?_⟩
      have read := (echo.denotes_iff _ value).mp denotes
      rw [List.headD_nil, echo.parse_empty] at read
      cases read
  | cons token tokens ih =>
      obtain ⟨values, later⟩ := ih
      by_cases isLiteral : ∃ value, echo.Denotes token value
      · obtain ⟨value, denotes⟩ := isLiteral
        exact ⟨value :: values, .cons denotes later⟩
      · exact ⟨[], .nil fun value denotes => isLiteral ⟨value, denotes⟩⟩

/-! ### Once round -/

/-- What the command does again and again. -/
def action (echo : Echo α) : Action Console Fault Unit :=
  Command.echo (Base.inputLiteral echo.method echo.expected echo.parse echo.parsed) fun value =>
    Base.write echo.printing (echo.text value)

variable {settings : Console.Settings} {capacity : Nat} {bytes written : List UInt8} {console : Console}

/-- A literal is taken, and its value is written on a line. -/
theorem echo_of_denotes {value : α} (stands : console.Stands settings capacity bytes written)
    (granted : Buffer.Granted capacity (Reader.token bytes).length)
    (denotes : echo.Denotes (Utf8.decode (Reader.token bytes)) value) :
    Ends echo.action console (.returned ())
      (Console.Stands settings capacity (Reader.afterToken bytes) (written ++ echo.lines [value])) := by
  have read := Base.inputLiteral_of_token echo.method echo.expected echo.parse echo.parsed
    (Console.readToken_stands stands granted)
  rw [Base.ofToken, (echo.denotes_iff _ value).mp denotes] at read
  refine read.bind fun console stands => ?_
  refine (Base.write_ends stands echo.printing (echo.text value)).bind fun console stands => ?_
  refine (Base.write_ends stands .print "\n").bind fun console stands => ?_
  rw [List.append_assoc, ← Utf8.encode_append] at stands
  rw [lines, List.flatMap_singleton]
  exact .pure stands

/-- Any other token is taken, and nothing is written. -/
theorem echo_of_refused (stands : console.Stands settings capacity bytes written)
    (granted : Buffer.Granted capacity (Reader.token bytes).length)
    (refused : ∀ value, ¬ echo.Denotes (Utf8.decode (Reader.token bytes)) value) :
    ∃ fault, echo.Refuses (Utf8.decode (Reader.token bytes)) fault ∧
      Ends echo.action console (.failed fault)
        (Console.Stands settings capacity (Reader.afterToken bytes) written) := by
  have read := Base.inputLiteral_of_token echo.method echo.expected echo.parse echo.parsed
    (Console.readToken_stands stands granted)
  unfold Base.ofToken at read
  cases parsed : echo.parse (Utf8.decode (Reader.token bytes)) with
  | ok value => exact absurd ((echo.denotes_iff _ value).mpr parsed) (refused value)
  | error error =>
      rw [parsed] at read
      refine ⟨_, ?_, read.bind_failed⟩
      cases error with
      | outOfRange => exact .outOfRange ((echo.outOfRange_iff _).mpr parsed)
      | malformed =>
          refine .malformed fun large => ?_
          have read := (echo.outOfRange_iff _).mp large
          rw [parsed] at read
          cases read

/-! ### So many times -/

/-- No request for the buffer of one of the first words reaches the limit. -/
def Granted (capacity count : Nat) (bytes : List UInt8) : Prop :=
  ∀ k < count, Buffer.Granted capacity ((Pieces.words isSpace bytes).getD k []).length

theorem Granted.first {count : Nat} (granted : Granted capacity (count + 1) bytes) :
    Buffer.Granted capacity (Reader.token bytes).length := by
  have now := granted 0 (Nat.succ_pos count)
  rwa [(Pieces.unfold_words isSpace).zero] at now

theorem Granted.rest {count : Nat} (granted : Granted capacity (count + 1) bytes) :
    Granted capacity count (Reader.afterToken bytes) := by
  intro k less
  have later := granted (k + 1) (Nat.succ_lt_succ less)
  rwa [(Pieces.unfold_words isSpace).succ] at later

/-- A leading literal is the token that is read next, and the others come after it. -/
theorem Leading.next {value : α} {values : List α}
    (leading : echo.Leading (Reader.tokens bytes) (value :: values)) :
    echo.Denotes (Utf8.decode (Reader.token bytes)) value ∧
      echo.Leading (Reader.tokens (Reader.afterToken bytes)) values := by
  rcases Reader.tokens_cases bytes with ⟨none, -⟩ | some
  · rw [none] at leading
    cases leading
  · rw [some] at leading
    cases leading with
    | cons denotes later => exact ⟨denotes, later⟩

theorem Leading.refused (leading : echo.Leading (Reader.tokens bytes) ([] : List α)) (value : α) :
    ¬ echo.Denotes (Utf8.decode (Reader.token bytes)) value := by
  rw [← Reader.getD_tokens_zero]
  generalize Reader.tokens bytes = tokens at leading
  cases leading with
  | nil refused =>
      cases tokens with
      | nil => exact refused value
      | cons token rest => exact refused value

theorem lines_cons (value : α) (values : List α) :
    echo.lines (value :: values) = echo.lines [value] ++ echo.lines values := by
  rw [lines, lines, lines, List.flatMap_cons, List.flatMap_singleton]

/-- Where there are literals enough, so many of them are taken and written. -/
theorem times_of_le {n : Nat} {values : List α} (stands : console.Stands settings capacity bytes written)
    (leading : echo.Leading (Reader.tokens bytes) values) (enough : n ≤ values.length)
    (granted : Granted capacity n bytes) :
    Ends (times n echo.action) console (.returned ())
      (Console.Stands settings capacity (Reader.afterToken^[n] bytes)
        (written ++ echo.lines (values.take n))) := by
  induction n generalizing console bytes written values with
  | zero =>
      rw [times_zero, List.take_zero]
      refine .pure ?_
      rw [lines, List.flatMap_nil, List.append_nil]
      exact stands
  | succ n ih =>
      cases values with
      | nil => cases enough
      | cons value values =>
          obtain ⟨denotes, later⟩ := leading.next
          rw [times_succ, List.take_succ_cons, lines_cons, ← List.append_assoc]
          refine (echo_of_denotes stands granted.first denotes).bind fun console stands => ?_
          exact ih stands later (Nat.le_of_succ_le_succ enough) granted.rest

/-- Where they run out before, all of them are written, and the command fails at the next token. -/
theorem times_of_lt {n : Nat} {values : List α} (stands : console.Stands settings capacity bytes written)
    (leading : echo.Leading (Reader.tokens bytes) values) (short : values.length < n)
    (granted : Granted capacity (values.length + 1) bytes) :
    ∃ fault, echo.Refuses ((Reader.tokens bytes).getD values.length "") fault ∧
      Ends (times n echo.action) console (.failed fault)
        (Console.Stands settings capacity (Reader.afterToken^[values.length + 1] bytes)
          (written ++ echo.lines values)) := by
  induction n generalizing console bytes written values with
  | zero => cases short
  | succ n ih =>
      rw [times_succ]
      cases values with
      | nil =>
          obtain ⟨fault, refuses, ends⟩ := echo_of_refused stands granted.first leading.refused
          rw [← Reader.getD_tokens_zero] at refuses
          rw [lines, List.flatMap_nil, List.append_nil]
          exact ⟨fault, refuses, ends.bind_failed⟩
      | cons value values =>
          obtain ⟨denotes, later⟩ := leading.next
          obtain ⟨ending, stands⟩ := echo_of_denotes stands granted.first denotes
          obtain ⟨fault, refuses, ends⟩ :=
            ih stands later (Nat.lt_of_succ_lt_succ short) granted.rest
          rw [← Reader.getD_tokens_succ] at refuses
          rw [lines_cons, ← List.append_assoc]
          exact ⟨fault, refuses, Ends.bind ⟨ending, rfl⟩ fun _ same => same ▸ ends⟩

/-! ### The program -/

theorem console_stands (config : Config) (stdin : List UInt8) :
    (Command.console config stdin).Stands (.ofConfig config) (max config.input.initialCapacity 1) stdin
      [] := by
  have steady : Source.Steady (.ofBytes stdin) := trivial
  have data : Source.data (.ofBytes stdin) = stdin := List.append_nil stdin
  have holds := Stream.holds_ofSource steady config.input.initialCapacity
  rw [data] at holds
  exact ⟨⟨rfl, holds, Sink.neverFails_reliable.healthy⟩, Sink.neverFails_reliable, rfl⟩

/-- What a command that echoes comes to, where these are the values of the leading literals. -/
structure Echoes (echo : Echo α) (n : Nat) (config : Config) (stdin : List UInt8) (values : List α)
    (exit : Exit) : Prop where
  enough : n ≤ values.length →
    exit.code = 0 ∧ exit.stdout = echo.lines (values.take n) ∧ (config.log.Quiet → exit.stderr = "") ∧
    ((echo.command n).outcome config stdin).state.stream.remaining = Reader.afterToken^[n] stdin
  short : values.length < n → ∃ fault,
    echo.Refuses ((Reader.tokens stdin).getD values.length "") fault ∧
    ((echo.command n).outcome config stdin).ending = .failed fault ∧
    exit.code = 1 ∧ exit.stdout = echo.lines values ∧
    (config.log.Quiet → exit.stderr = fault.message ++ "\n") ∧
    ((echo.command n).outcome config stdin).state.stream.remaining =
      Reader.afterToken^[values.length + 1] stdin

theorem run_command (n : Nat) :
    (echo.command n).run =
      times n echo.action >>= fun _ => Console.flush.mapError (Fault.io .print) := by
  rw [Command.run, echo.body_eq]
  rfl

theorem echoes_exit (n : Nat) (config : Config) (stdin : List UInt8) (time : String) {values : List α}
    (leading : echo.Leading (Reader.tokens stdin) values)
    (granted : Granted (max config.input.initialCapacity 1) (min n (values.length + 1)) stdin) :
    echo.Echoes n config stdin values ((echo.command n).exit config stdin time) := by
  have stands := console_stands config stdin
  constructor
  · intro enough
    rw [Nat.min_eq_left (Nat.le_succ_of_le enough)] at granted
    have ends : Ends (echo.command n).run (Command.console config stdin) (.returned ())
        (Console.Stands (.ofConfig config) (max config.input.initialCapacity 1)
          (Reader.afterToken^[n] stdin) (echo.lines (values.take n))) := by
      rw [run_command]
      refine (times_of_le stands leading enough granted).bind fun console stands => ?_
      exact (Console.flush_stands stands).mapError (Fault.io .print)
    obtain ⟨code, stdout, stderr⟩ := Command.exit_of_returned time ends.ending
    exact ⟨code, stdout.trans ends.left.accepted, stderr, ends.left.holds.stream.remaining⟩
  · intro short
    rw [Nat.min_eq_right short] at granted
    obtain ⟨fault, refuses, failed⟩ := times_of_lt stands leading short granted
    have ends : Ends (echo.command n).run (Command.console config stdin) (.failed fault)
        (Console.Stands (.ofConfig config) (max config.input.initialCapacity 1)
          (Reader.afterToken^[values.length + 1] stdin) (echo.lines values)) := by
      rw [run_command]
      exact failed.bind_failed
    obtain ⟨code, stdout, stderr⟩ := Command.exit_of_failed time ends.ending
    exact ⟨fault, refuses, ends.ending, code, stdout.trans ends.left.accepted, stderr,
      ends.left.holds.stream.remaining⟩

variable (echo) in
/-- The arguments ask for so many rounds, under the configuration that they lead to. -/
theorem run_eq_exit {leads : List Lead} {given : Given} (fit : Lead.given? leads = some given)
    {contentOf : String → Except FileError (List UInt8)} {config : Config}
    (loaded : given.file contentOf = .ok config) {count : String} {n : Nat}
    (counts : parseCount count = .ok n) (stdin : List UInt8) (time : String) :
    run (leads.flatMap Lead.arguments ++ [echo.verb.name, "--count", count]) contentOf stdin time =
      (echo.command n).exit (config.overriddenBy given.verbosity given.format) stdin time := by
  rw [run_leads fit, readCommand_count echo.repeats counts, echo.commandOf_eq, loaded]
  rfl

end Echo

/-- Under any configuration, and whatever switches stand in front: of the leading literals among the
tokens of standard input, as many as are asked for are echoed, and the input is taken through the last
of them. If there are fewer, all of them are echoed, the input is taken through the token behind them
too, and the program fails for it, as out of range where it is an integer of more than 32 bits, and as
malformed otherwise. Where the log shows warnings at most, standard error has the fault's message and
nothing else. -/
theorem run_echoes {leads : List Lead} {given : Given} (fit : Lead.given? leads = some given)
    {contentOf : String → Except FileError (List UInt8)} {config : Config}
    (loaded : given.file contentOf = .ok config) {count : String} {n : Nat}
    (counts : parseCount count = .ok n) (stdin : List UInt8) (time : String) :
    ((∃ values, Echo.int32.Leading (Reader.tokens stdin) values) ∧
      ∀ values, Echo.int32.Leading (Reader.tokens stdin) values →
        Echo.Granted (max config.input.initialCapacity 1) (min n (values.length + 1)) stdin →
        Echo.int32.Echoes n (config.overriddenBy given.verbosity given.format) stdin values
          (run (leads.flatMap Lead.arguments ++ ["input-int32", "--count", count]) contentOf stdin
            time)) ∧
    ((∃ values, Echo.bool.Leading (Reader.tokens stdin) values) ∧
      ∀ values, Echo.bool.Leading (Reader.tokens stdin) values →
        Echo.Granted (max config.input.initialCapacity 1) (min n (values.length + 1)) stdin →
        Echo.bool.Echoes n (config.overriddenBy given.verbosity given.format) stdin values
          (run (leads.flatMap Lead.arguments ++ ["input-bool", "--count", count]) contentOf stdin
            time)) := by
  refine ⟨⟨Echo.exists_leading _, ?integers⟩, Echo.exists_leading _, ?booleans⟩
  case integers =>
      intro values leading granted
      have exits := Echo.int32.run_eq_exit fit loaded counts stdin time
      rw [show Echo.int32.verb.name = "input-int32" from rfl] at exits
      rw [exits]
      exact Echo.echoes_exit n _ stdin time leading granted
  case booleans =>
      intro values leading granted
      have exits := Echo.bool.run_eq_exit fit loaded counts stdin time
      rw [show Echo.bool.verb.name = "input-bool" from rfl] at exits
      rw [exits]
      exact Echo.echoes_exit n _ stdin time leading granted

/-- Three integers, one too large, and one that is never looked at. -/
theorem run_echoes_too_large :
    let contentOf : String → Except FileError (List UInt8) := fun _ =>
      .ok (Utf8.encode "\x7b\"input\":\x7b\"initial_capacity\":0\x7d\x7d")
    let exit := run ["--config", "c.json", "--log-format", "json", "input-int32", "--count", "5"] contentOf
      (Utf8.encode " 12 0x1F\n-7 99999999999 5") ""
    exit.code = 1 ∧ exit.stdout = Utf8.encode "12\n31\n-7\n" ∧
      exit.stderr = "Object::inputInt32: `99999999999` does not fit a 32-bit integer!\n" := by
  intro contentOf exit
  have fit : Lead.given? [.config "c.json", .logFormat .json] =
      some { config := some "c.json", format := some .json } := by decide
  have loaded : Given.file { config := some "c.json", format := some .json } contentOf =
      .ok { input.initialCapacity := 0 } := by decide +kernel
  have counts : parseCount "5" = .ok 5 := by decide
  obtain ⟨⟨-, integers⟩, -⟩ := run_echoes fit loaded counts (Utf8.encode " 12 0x1F\n-7 99999999999 5") ""
  have tokens : Reader.tokens (Utf8.encode " 12 0x1F\n-7 99999999999 5") =
      ["12", "0x1F", "-7", "99999999999", "5"] := by decide +kernel
  have leading : Echo.int32.Leading ["12", "0x1F", "-7", "99999999999", "5"] [12, 31, -7] := by
    refine .cons ?_ (.cons ?_ (.cons ?_ (.nil fun value denotes => ?_)))
    · exact (Echo.int32.denotes_iff _ _).mpr (by decide)
    · exact (Echo.int32.denotes_iff _ _).mpr (by decide)
    · exact (Echo.int32.denotes_iff _ _).mpr (by decide)
    · have read := (Echo.int32.denotes_iff _ value).mp denotes
      have large : parseInt32 "99999999999" = .error .outOfRange := by decide
      cases large.symm.trans read
  have few : ∀ k < 4, ((Pieces.words isSpace (Utf8.encode " 12 0x1F\n-7 99999999999 5")).getD k []).length
      < 100 := by decide +kernel
  have granted : Echo.Granted 1 4 (Utf8.encode " 12 0x1F\n-7 99999999999 5") := by
    intro k less
    have short := few k less
    exact Buffer.granted_of_lt (by decide) (by unfold Buffer.limit; omega)
  have echoes := integers [12, 31, -7] (tokens ▸ leading) granted
  obtain ⟨fault, refuses, -, code, stdout, stderr, -⟩ := echoes.short (by decide)
  refine ⟨code, stdout.trans (by decide +kernel), ?_⟩
  have quiet : Log.Settings.Quiet { format := .json } := by
    intro target
    cases target <;> decide
  rw [tokens] at refuses
  cases refuses with
  | outOfRange large => exact (stderr quiet).trans (by decide +kernel)
  | malformed no => exact absurd ((Echo.int32.outOfRange_iff _).mpr (by decide)) no

end CommandLine
end RootObject
