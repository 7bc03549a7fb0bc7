import Mathlib.Data.List.TakeWhile
import RootObject.Proofs.CommandLine.Echo
import RootObject.Proofs.Console.Lines
import RootObject.Proofs.Console.Values

/-!
Echoes that are echoed again. Lines are written as the texts that they decode to, each with a line end
behind it. Such texts have no line end in them, so what was written is cut where a line was ended, whether
line ends are taken or left (`Reader.lines_ofLines`), and decodes to the same texts. Values are written as
literals of themselves, one on a line. So the echo of an echo is the echo (`run_again`), and a file of
whole lines is its own echo.
-/

namespace RootObject

theorem Utf8.map_decode_encode (texts : List String) :
    (texts.map Utf8.encode).map Utf8.decode = texts := by
  rw [List.map_map]
  exact (List.map_congr_left fun text _ => Utf8.decode_encode text).trans (List.map_id _)

/-! ### Lines one after another -/

namespace Reader

/-- The first lines, each read from where the one before left off. -/
def lines (terminator : LineTerminator) : Nat → List UInt8 → List (List UInt8)
  | 0, _ => []
  | n + 1, bytes => line bytes :: lines terminator n (afterLine terminator bytes)

/-- The texts of the first lines, each decoded for itself. -/
def texts (terminator : LineTerminator) (n : Nat) (bytes : List UInt8) : List String :=
  (lines terminator n bytes).map Utf8.decode

variable {terminator : LineTerminator} {n : Nat} {bytes : List UInt8}

theorem length_lines (terminator : LineTerminator) (n : Nat) (bytes : List UInt8) :
    (lines terminator n bytes).length = n := by
  induction n generalizing bytes with
  | zero => rfl
  | succ n ih => rw [lines, List.length_cons, ih]

theorem length_texts (terminator : LineTerminator) (n : Nat) (bytes : List UInt8) :
    (texts terminator n bytes).length = n := by
  rw [texts, List.length_map, length_lines]

/-- No text of a line has a line end in it, whatever its bytes are. -/
theorem single_texts : ∀ text ∈ texts terminator n bytes, '\n' ∉ text.toList := by
  induction n generalizing bytes with
  | zero => exact fun _ among => absurd among List.not_mem_nil
  | succ n ih =>
      refine List.forall_mem_cons.mpr ⟨?_, ih⟩
      have uncut : ∀ byte ∈ line bytes, isLineEnd byte = false := by
        intro byte among
        simpa using List.mem_takeWhile_imp among
      intro among
      rw [Utf8.toList_decode] at among
      have marked := Console.separators_isLineEnd.forall_chars uncut '\n' among
      cases marked

/-- At a line end that is left the lines are empty. -/
theorem lines_keep_of_end (ended : bytes.head? = some 0x0A ∨ bytes = []) (n : Nat) :
    lines .keep n bytes = List.replicate n [] := by
  have empty : line bytes = [] ∧ afterLine .keep bytes = bytes := by
    rcases ended with ends | rfl
    · cases bytes with
      | nil => exact ⟨rfl, rfl⟩
      | cons b rest =>
          cases ends
          exact ⟨rfl, rfl⟩
    · exact ⟨rfl, rfl⟩
  induction n with
  | zero => rfl
  | succ n ih => rw [lines, empty.1, empty.2, ih, List.replicate_succ]

/-- Where line ends are left, all lines behind the first are empty. -/
theorem lines_keep_succ (n : Nat) (bytes : List UInt8) :
    lines .keep (n + 1) bytes = line bytes :: List.replicate n [] := by
  rw [lines, afterLine, lines_keep_of_end (head?_dropWhile bytes)]

theorem line_encode {text : String} (single : '\n' ∉ text.toList) (rest : List UInt8) :
    line (Utf8.encode text ++ 0x0A :: rest) = Utf8.encode text ∧
      afterLine .consume (Utf8.encode text ++ 0x0A :: rest) = rest := by
  have passed : ∀ byte ∈ Utf8.encode text, (!isLineEnd byte) = true := by
    intro byte among
    rw [Utf8.not_isLineEnd_of_mem single byte among]
    rfl
  constructor
  · rw [line, List.takeWhile_append_of_pos passed, List.takeWhile_cons_of_neg (by decide),
      List.append_nil]
  · rw [afterLine, List.dropWhile_append_of_pos passed, List.dropWhile_cons_of_neg (by decide),
      List.tail_cons]

/-- Texts on lines of their own are what is read again. -/
theorem lines_ofLines {texts : List String} (single : ∀ text ∈ texts, '\n' ∉ text.toList) :
    lines .consume texts.length (Utf8.ofLines texts) = texts.map Utf8.encode := by
  induction texts with
  | nil => rfl
  | cons text texts ih =>
      obtain ⟨now, later⟩ := List.forall_mem_cons.mp single
      obtain ⟨first, behind⟩ := line_encode now (Utf8.ofLines texts)
      rw [Utf8.ofLines_cons, List.length_cons, lines, first, behind, ih later, List.map_cons]

/-- The texts of lines, on lines of their own, are read as what they were written as. -/
theorem lines_ofLines_texts (terminator : LineTerminator) (n : Nat) (bytes : List UInt8) :
    lines terminator n (Utf8.ofLines (texts terminator n bytes)) =
      (texts terminator n bytes).map Utf8.encode := by
  cases terminator with
  | consume =>
      have again := lines_ofLines (@single_texts .consume n bytes)
      rwa [length_texts] at again
  | keep =>
      cases n with
      | zero => rfl
      | succ n =>
          have single := (List.forall_mem_cons.mp (@single_texts .keep (n + 1) bytes)).1
          have whole : texts .keep (n + 1) bytes =
              Utf8.decode (line bytes) :: List.replicate n "" := by
            rw [texts, lines_keep_succ, List.map_cons, List.map_replicate]
            rfl
          rw [whole, lines_keep_succ, Utf8.ofLines_cons, (line_encode single _).1, List.map_cons,
            List.map_replicate]
          rfl

/-- Decoding is done with after once. -/
theorem texts_ofLines_texts (terminator : LineTerminator) (n : Nat) (bytes : List UInt8) :
    texts terminator n (Utf8.ofLines (texts terminator n bytes)) = texts terminator n bytes := by
  rw [texts, lines_ofLines_texts, Utf8.map_decode_encode]

end Reader

namespace CommandLine

open RootObject.Action

/-! ### The echo of lines -/

namespace EchoLine

/-- What the command does again and again. -/
def action : Action Console Fault Unit :=
  Command.echo Base.inputLine Base.print

/-- No request for the buffer of one of the first lines reaches the limit. -/
def Granted (capacity : Nat) (terminator : LineTerminator) (n : Nat) (bytes : List UInt8) : Prop :=
  ∀ line ∈ Reader.lines terminator n bytes, Buffer.Granted capacity line.length

variable {settings : Console.Settings} {capacity : Nat} {bytes written : List UInt8} {console : Console}

theorem action_ends (stands : console.Stands settings capacity bytes written)
    (granted : Buffer.Granted capacity (Reader.line bytes).length) :
    Ends action console (.returned ())
      (Console.Stands settings capacity (Reader.afterLine settings.lineTerminator bytes)
        (written ++ Utf8.encode (Utf8.decode (Reader.line bytes) ++ "\n"))) := by
  have read := (Console.readLine_stands stands granted).mapError (Fault.ofRead .inputLine)
  refine read.bind fun console stands => ?_
  refine (Base.write_ends stands .print _).bind fun console stands => ?_
  refine (Base.write_ends stands .print "\n").bind fun console stands => ?_
  rw [List.append_assoc, ← Utf8.encode_append] at stands
  exact .pure stands

theorem times_ends {n : Nat} (stands : console.Stands settings capacity bytes written)
    (granted : Granted capacity settings.lineTerminator n bytes) :
    Ends (times n action) console (.returned ())
      (Console.Stands settings capacity ((Reader.afterLine settings.lineTerminator)^[n] bytes)
        (written ++ Utf8.ofLines (Reader.texts settings.lineTerminator n bytes))) := by
  induction n generalizing console bytes written with
  | zero =>
      refine .pure ?_
      change Console.Stands _ _ bytes (written ++ []) console
      rwa [List.append_nil]
  | succ n ih =>
      obtain ⟨now, later⟩ := List.forall_mem_cons.mp granted
      rw [times_succ]
      refine (action_ends stands now).bind fun console stands => ?_
      have ends := ih stands later
      rw [List.append_assoc] at ends
      exact ends

/-- The lines that were asked for are written, each with a line end behind it. -/
theorem exit_inputLine (n : Nat) (config : Config) (stdin : List UInt8) (time : String)
    (granted : Granted (max config.input.initialCapacity 1) config.input.lineTerminator n stdin) :
    let exit := (Command.inputLine n).exit config stdin time
    exit.code = 0 ∧ exit.stdout = Utf8.ofLines (Reader.texts config.input.lineTerminator n stdin) := by
  have stands := Echo.console_stands config stdin
  have ends : Ends (Command.inputLine n).run (Command.console config stdin) (.returned ())
      (Console.Stands (.ofConfig config) (max config.input.initialCapacity 1)
        ((Reader.afterLine config.input.lineTerminator)^[n] stdin)
        (Utf8.ofLines (Reader.texts config.input.lineTerminator n stdin))) := by
    refine Ends.bind (times_ends stands granted) fun console stands => ?_
    exact (Console.flush_stands stands).mapError (Fault.io .print)
  obtain ⟨code, stdout, -⟩ := Command.exit_of_returned time ends.ending
  exact ⟨code, stdout.trans ends.left.accepted⟩

/-- The arguments ask for so many lines, under the configuration that they lead to. -/
theorem run_eq_exit {leads : List Lead} {given : Given} (fit : Lead.given? leads = some given)
    {contentOf : String → Except FileError (List UInt8)} {config : Config}
    (loaded : given.file contentOf = .ok config) {count : String} {n : Nat}
    (counts : parseCount count = .ok n) (stdin : List UInt8) (time : String) :
    run (leads.flatMap Lead.arguments ++ ["input-line", "--count", count]) contentOf stdin time =
      (Command.inputLine n).exit (config.overriddenBy given.verbosity given.format) stdin time := by
  have name : Verb.inputLine.name = "input-line" := rfl
  rw [← name, run_leads fit, readCommand_count rfl counts, loaded]
  rfl

end EchoLine

/-! ### The echo of literals -/

namespace Echo

variable {α : Type} {echo : Echo α}

/-- What is written for a value is a word that denotes it. -/
structure Faithful (echo : Echo α) : Prop where
  denotes : ∀ value, echo.Denotes (echo.text value) value
  nonempty : ∀ value, echo.text value ≠ ""
  solid : ∀ value, (Utf8.encode (echo.text value)).all (!isSpace ·) = true
  short : ∀ value, (echo.text value).toList.length ≤ 11

theorem int32_faithful : int32.Faithful where
  denotes value := (int32.denotes_iff _ value).mpr (Literal.parseInt32_toString value)
  nonempty value := (Value.int32 value).text_ne_empty
  solid value := (Value.int32 value).solid_text
  short value := (Value.int32 value).length_text_le

theorem bool_faithful : bool.Faithful where
  denotes _ := rfl
  nonempty value := (Value.bool value).text_ne_empty
  solid value := (Value.bool value).solid_text
  short value := (Value.bool value).length_text_le

namespace Faithful

/-- The words of what is written are the literals. -/
theorem words_lines (faithful : echo.Faithful) (values : List α) :
    Pieces.words isSpace (echo.lines values) = (values.map echo.text).map Utf8.encode := by
  induction values with
  | nil => rfl
  | cons value values ih =>
      have whole : echo.lines (value :: values) =
          [] ++ Utf8.encode (echo.text value) ++ 0x0A :: echo.lines values := by
        rw [lines_cons, lines, List.flatMap_singleton, Utf8.encode_append]
        simp [show Utf8.encode "\n" = [0x0A] from rfl]
      have nonempty := Utf8.encode_ne_nil (faithful.nonempty value)
      obtain ⟨taken, left⟩ := @Reader.token_of_word [] _ (0x0A :: echo.lines values) rfl
        (faithful.solid value) nonempty fun b head => by cases head; rfl
      rw [← whole] at taken left
      rcases Pieces.words_cases isSpace (echo.lines (value :: values)) with ⟨-, nothing⟩ | some
      · rw [Reader.token, nothing] at taken
        exact absurd taken.symm nonempty
      · change _ = Reader.token _ :: Pieces.words isSpace (Reader.afterToken _) at some
        rw [some, taken, left, Pieces.words_cons isSpace rfl, ih, List.map_cons, List.map_cons]

theorem tokens_lines (faithful : echo.Faithful) (values : List α) :
    Reader.tokens (echo.lines values) = values.map echo.text := by
  rw [Reader.tokens, faithful.words_lines, Utf8.map_decode_encode]

/-- All values that were written are read again, and no more. -/
theorem leading_lines (faithful : echo.Faithful) (values : List α) :
    echo.Leading (Reader.tokens (echo.lines values)) values := by
  rw [faithful.tokens_lines]
  induction values with
  | nil =>
      refine .nil fun value denotes => ?_
      have read := (echo.denotes_iff _ value).mp denotes
      rw [List.map_nil, List.headD_nil, echo.parse_empty] at read
      cases read
  | cons value values ih => exact .cons (faithful.denotes value) ih

/-- Literals are short, so memory for them is granted if any is. -/
theorem granted_lines (faithful : echo.Faithful) {capacity : Nat} (small : capacity < Buffer.limit)
    (n : Nat) (values : List α) : Granted capacity n (echo.lines values) := by
  intro k _
  have few : ((Pieces.words isSpace (echo.lines values)).getD k []).length ≤ 44 := by
    rw [faithful.words_lines, List.getD_eq_getElem?_getD, List.getElem?_map, List.getElem?_map]
    cases values[k]? with
    | none => exact Nat.zero_le _
    | some value =>
        have bytes := Utf8.length_encode_le (echo.text value)
        have short := faithful.short value
        change (Utf8.encode (echo.text value)).length ≤ 44
        omega
  refine Buffer.granted_of_lt small ?_
  unfold Buffer.limit
  omega

/-- A command that succeeded does so again on what it has written, and writes the same. -/
theorem exit_again (faithful : echo.Faithful) (n : Nat) (config : Config) (stdin : List UInt8)
    (time time' : String) (granted : Granted (max config.input.initialCapacity 1) n stdin) :
    let exit := (echo.command n).exit config stdin time
    exit.code = 0 → ((echo.command n).exit config exit.stdout time').code = 0 ∧
      ((echo.command n).exit config exit.stdout time').stdout = exit.stdout := by
  intro exit succeeded
  obtain ⟨values, leading⟩ := @exists_leading _ echo (Reader.tokens stdin)
  have first := echoes_exit n config stdin time leading fun k less =>
    granted k (Nat.lt_of_lt_of_le less (Nat.min_le_left ..))
  have enough : n ≤ values.length := by
    refine Nat.not_lt.mp fun short => ?_
    obtain ⟨-, -, -, code, -⟩ := first.short short
    cases succeeded.symm.trans code
  obtain ⟨-, stdout, -⟩ := first.enough enough
  have length : (values.take n).length = n := List.length_take_of_le enough
  have granted' : Granted (max config.input.initialCapacity 1) (min n ((values.take n).length + 1))
      (echo.lines (values.take n)) := by
    cases n with
    | zero =>
        intro k less
        rw [Nat.zero_min] at less
        exact absurd less (Nat.not_lt_zero k)
    | succ n => exact faithful.granted_lines (granted 0 (Nat.succ_pos n)).capacity_lt _ _
  have second := echoes_exit n config _ time' (faithful.leading_lines (values.take n)) granted'
  obtain ⟨code', stdout', -⟩ := second.enough (Nat.le_of_eq length.symm)
  rw [List.take_of_length_le (Nat.le_of_eq length)] at stdout'
  rw [show exit.stdout = _ from stdout]
  exact ⟨code', stdout'⟩

end Faithful
end Echo

/-! ### The program -/

/-- Under any configuration, and whatever switches stand in front: a file of so many lines of text as are
asked for, each with its line end, is echoed as it is where line ends are taken. Whatever standard input is,
the echo of its lines is echoed as it is, whether line ends are taken or left; and so is the echo of its
literals if there were enough of them. No failure of a source or a sink and no want of memory has a part
in this. -/
theorem run_again {leads : List Lead} {given : Given} (fit : Lead.given? leads = some given)
    {contentOf : String → Except FileError (List UInt8)} {config : Config}
    (loaded : given.file contentOf = .ok config) {count : String} {n : Nat}
    (counts : parseCount count = .ok n) (time time' : String) :
    let capacity := max config.input.initialCapacity 1
    let mode := config.input.lineTerminator
    let echo (verb : String) (stdin : List UInt8) (time : String) : Exit :=
      run (leads.flatMap Lead.arguments ++ [verb, "--count", count]) contentOf stdin time
    (∀ texts, mode = .consume → texts.length = n → (∀ text ∈ texts, '\n' ∉ text.toList) →
      EchoLine.Granted capacity mode n (Utf8.ofLines texts) →
      (echo "input-line" (Utf8.ofLines texts) time).code = 0 ∧
        (echo "input-line" (Utf8.ofLines texts) time).stdout = Utf8.ofLines texts) ∧
    (∀ stdin, EchoLine.Granted capacity mode n stdin →
      EchoLine.Granted capacity mode n (echo "input-line" stdin time).stdout →
      let exit := echo "input-line" stdin time
      exit.code = 0 ∧ (echo "input-line" exit.stdout time').code = 0 ∧
        (echo "input-line" exit.stdout time').stdout = exit.stdout) ∧
    ∀ verb ∈ ["input-int32", "input-bool"], ∀ stdin, Echo.Granted capacity n stdin →
      let exit := echo verb stdin time
      exit.code = 0 → (echo verb exit.stdout time').code = 0 ∧
        (echo verb exit.stdout time').stdout = exit.stdout := by
  intro capacity mode echo
  have lines (stdin : List UInt8) (time : String) (granted : EchoLine.Granted capacity mode n stdin) :
      (echo "input-line" stdin time).code = 0 ∧
        (echo "input-line" stdin time).stdout = Utf8.ofLines (Reader.texts mode n stdin) := by
    have exits := EchoLine.run_eq_exit fit loaded counts stdin time
    simp only [echo, exits]
    exact EchoLine.exit_inputLine n (config.overriddenBy given.verbosity given.format) stdin time granted
  refine ⟨?cat, ?lines, ?literals⟩
  case cat =>
      intro texts consume length single granted
      obtain ⟨code, stdout⟩ := lines _ time granted
      refine ⟨code, stdout.trans ?_⟩
      rw [consume, ← length, Reader.texts, Reader.lines_ofLines single, Utf8.map_decode_encode]
  case lines =>
      intro stdin granted granted' exit
      obtain ⟨code, stdout⟩ := lines stdin time granted
      obtain ⟨code', stdout'⟩ := lines _ time' granted'
      refine ⟨code, code', stdout'.trans ?_⟩
      rw [stdout, Reader.texts_ofLines_texts]
  case literals =>
      have literal {α : Type} {kind : Echo α} (faithful : kind.Faithful) (stdin : List UInt8)
          (granted : Echo.Granted capacity n stdin) :
          let exit := echo kind.verb.name stdin time
          exit.code = 0 → (echo kind.verb.name exit.stdout time').code = 0 ∧
            (echo kind.verb.name exit.stdout time').stdout = exit.stdout := by
        have exits := kind.run_eq_exit fit loaded counts
        simp only [echo, exits]
        exact faithful.exit_again n (config.overriddenBy given.verbosity given.format) stdin time time' granted
      simp only [List.forall_mem_cons]
      refine ⟨?_, ?_, fun _ none => absurd none List.not_mem_nil⟩
      · exact literal Echo.int32_faithful
      · exact literal Echo.bool_faithful

/-- A file of three lines is echoed as it is. Of three lines with an invalid byte and no line end behind the
last the echo is such a file, and is its own echo; as is the echo of three literals. -/
theorem run_again_invalid :
    let contentOf : String → Except FileError (List UInt8) := fun _ => .error .missing
    let echo (verb : String) (stdin : List UInt8) : List UInt8 :=
      (run [verb, "--count", "3"] contentOf stdin "").stdout
    let file := Utf8.encode " caf\u00E9\n\nb\n"
    let broken := [0x61, 0xFF, 0x0A, 0x0A, 0x62]
    let spaced := Utf8.encode " 0x1F -7\n2 5"
    echo "input-line" file = file ∧
      (echo "input-line" broken = Utf8.encode "a\uFFFD\n\nb\n" ∧
        echo "input-line" (echo "input-line" broken) = echo "input-line" broken) ∧
      (echo "input-int32" spaced = Utf8.encode "31\n-7\n2\n" ∧
        echo "input-int32" (echo "input-int32" spaced) = echo "input-int32" spaced) := by
  intro contentOf echo file broken spaced
  have fit : Lead.given? [] = some {} := rfl
  have loaded : Given.file {} contentOf = .ok {} := rfl
  have counts : parseCount "3" = .ok 3 := by decide
  obtain ⟨cat, lines, literals⟩ := run_again fit loaded counts "" ""
  have small {size : Nat} (less : size < 100) : Buffer.Granted (max ({} : Config).input.initialCapacity 1) size :=
    Buffer.granted_of_lt (by decide) (by unfold Buffer.limit; omega)
  have granted : ∀ stdin, (∀ line ∈ Reader.lines .consume 3 stdin, line.length < 100) →
      EchoLine.Granted (max ({} : Config).input.initialCapacity 1) .consume 3 stdin :=
    fun _ few line among => small (few line among)
  have few : ∀ k < 3, ((Pieces.words isSpace spaced).getD k []).length < 100 := by decide +kernel
  refine ⟨?_, ⟨by decide +kernel, ?_⟩, by decide +kernel, ?_⟩
  · exact (cat [" caf\u00E9", "", "b"] rfl rfl (by decide) (granted _ (by decide +kernel))).2
  · exact (lines broken (granted _ (by decide +kernel)) (granted _ (by decide +kernel))).2.2
  · exact (literals "input-int32" (by decide) spaced (fun k less => small (few k less)) (by decide +kernel)).2

end CommandLine
end RootObject
