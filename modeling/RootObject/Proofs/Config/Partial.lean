import Mathlib.Data.List.TakeWhile
import RootObject.Config.Reader
import RootObject.Proofs.Json.Merge

/-!
Documents that give a part of a configuration. The entries of its records say, beside the readers, what the
fields are given by; the readers follow them (`readsRecord_config`). So an object that gives some fields, at
both levels, is read as the defaults with just these replaced, whatever other keys it has; and one that gives
a field twice or a capacity by a numeral that is no size, or that is followed by more than blanks, is refused
(`ofJson_merges`).
-/

namespace RootObject.Config

open Json

/-! ### The fields of configurations -/

/-- The bytes are a string that spells the name of the value. -/
def Named {α : Type} (name : α → String) (bytes : List UInt8) (value : α) : Prop :=
  ∃ token, bytes = 0x22 :: token ∧ Spelt token (name value)

/-- The bytes are the number, which fits 64 bits, without a sign and leading zeros. -/
def Sized (bytes : List UInt8) (size : Nat) : Prop :=
  bytes = Utf8.encode (Decimal.ofNat size) ∧ size < 0x10000000000000000

/-- The bytes are one of the words for truth values. -/
def Judged (bytes : List UInt8) (value : Bool) : Prop :=
  bytes = Utf8.encode (if value then "true" else "false")

/-- The bytes name a level, or say that there is none. -/
def Leveled (bytes : List UInt8) : Option Log.Level → Prop
  | some level => Named Log.Level.name bytes level
  | none => bytes = Utf8.encode "null"

/-- No bytes spoil the field. -/
def never (_ : List UInt8) : Prop :=
  False

def inputEntries : List (Entry Input) :=
  [⟨"initial_capacity", Nat, Input.initialCapacity, Sized, NoSize⟩,
    ⟨"line_terminator", LineTerminator, Input.lineTerminator, Named LineTerminator.name, never⟩]

def outputEntries : List (Entry Output) :=
  [⟨"flush_before_input", Bool, Output.flushBeforeInput, Judged, never⟩]

def logEntries : List (Entry Log.Settings) :=
  [⟨"level", Log.Level, Log.Settings.level, Named Log.Level.name, never⟩,
    ⟨"format", Log.Format, Log.Settings.format, Named Log.Format.name, never⟩,
    ⟨"object", Option Log.Level, Log.Settings.object, Leveled, never⟩,
    ⟨"io", Option Log.Level, Log.Settings.io, Leveled, never⟩,
    ⟨"dispatch", Option Log.Level, Log.Settings.dispatch, Leveled, never⟩]

def entries : List (Entry Config) :=
  [.record "input" Config.input inputEntries {}, .record "output" Config.output outputEntries {},
    .record "log" Config.log logEntries {}]

/-! ### Readers of fields -/

theorem refuses_never {α : Type} {read : Reader α} (bytes : List UInt8) (spoils : never bytes) :
    Refuses read bytes :=
  spoils.elim

theorem reads_named {α : Type} {variants : List (String × α)} {name : α → String} {bytes : List UInt8}
    {value : α} (known : variants.lookup (name value) = some value) (named : Named name bytes value) :
    Reads (readVariant variants) bytes value := by
  obtain ⟨token, rfl, spelling⟩ := named
  exact reads_readVariant (Text.spells_of_spelling spelling) known

theorem reads_level {bytes : List UInt8} {level : Log.Level} (named : Named Log.Level.name bytes level) :
    Reads readLevel bytes level :=
  reads_named (by cases level <;> decide) named

theorem reads_leveled {bytes : List UInt8} {level : Option Log.Level} (leveled : Leveled bytes level) :
    Reads (readOptional readLevel) bytes level := by
  cases level with
  | none =>
      obtain rfl : bytes = Utf8.encode "null" := leveled
      exact reads_readOptional_none _
  | some level =>
      have reads := reads_level leveled
      obtain ⟨token, rfl, -⟩ : Named Log.Level.name bytes level := leveled
      exact reads_readOptional_some reads (by decide) (by decide)

theorem readsRecord_input (default : Input) : ReadsRecord inputEntries default (readInput default) := by
  refine ⟨_, _, rfl, .cons ?capacity (.cons ?terminator .nil), by decide, ?ext⟩
  case capacity =>
      refine .of_reads (fun input size => { input with initialCapacity := size }) rfl (fun _ _ => rfl)
        ?others ?reads fun _ => refuses_readSize
      case others => simp [inputEntries]
      case reads =>
          rintro _ size ⟨rfl, fits⟩
          exact reads_readSize (Nat.le_of_lt_succ fits)
  case terminator =>
      refine .of_reads (fun input terminator => { input with lineTerminator := terminator }) rfl
        (fun _ _ => rfl) ?others ?reads refuses_never
      case others => simp [inputEntries]
      case reads => exact fun _ terminator => reads_named (by cases terminator <;> decide)
  case ext =>
      rintro ⟨_, _⟩ ⟨_, _⟩ same
      simpa [inputEntries] using same

theorem readsRecord_output (default : Output) : ReadsRecord outputEntries default (readOutput default) := by
  refine ⟨_, _, rfl, .cons ?flush .nil, by decide, ?ext⟩
  case flush =>
      refine .of_reads (fun output flush => { output with flushBeforeInput := flush }) rfl (fun _ _ => rfl)
        ?others ?reads refuses_never
      case others => simp [outputEntries]
      case reads =>
          rintro _ value rfl
          exact reads_readBool value
  case ext =>
      rintro ⟨_⟩ ⟨_⟩ same
      simpa [outputEntries] using same

theorem readsRecord_log (default : Log.Settings) : ReadsRecord logEntries default (readLog default) := by
  refine ⟨_, _, rfl, .cons ?level (.cons ?format (.cons ?object (.cons ?io (.cons ?dispatch .nil)))),
    by decide, ?ext⟩
  case level =>
      refine .of_reads (fun log level => { log with level }) rfl (fun _ _ => rfl) ?_
        (fun _ _ => reads_level) refuses_never
      simp [logEntries]
  case format =>
      refine .of_reads (fun log format => { log with format }) rfl (fun _ _ => rfl) ?_
        (fun _ format => reads_named (by cases format <;> decide)) refuses_never
      simp [logEntries]
  case object =>
      refine .of_reads (fun log object => { log with object }) rfl (fun _ _ => rfl) ?_
        (fun _ _ => reads_leveled) refuses_never
      simp [logEntries]
  case io =>
      refine .of_reads (fun log io => { log with io }) rfl (fun _ _ => rfl) ?_
        (fun _ _ => reads_leveled) refuses_never
      simp [logEntries]
  case dispatch =>
      refine .of_reads (fun log dispatch => { log with dispatch }) rfl (fun _ _ => rfl) ?_
        (fun _ _ => reads_leveled) refuses_never
      simp [logEntries]
  case ext =>
      rintro ⟨_, _, _, _, _⟩ ⟨_, _, _, _, _⟩ same
      simpa [logEntries] using same

theorem readsRecord_config : ReadsRecord entries {} readConfig := by
  refine ⟨_, _, rfl, .cons ?input (.cons ?output (.cons ?log .nil)), by decide, ?ext⟩
  case input =>
      refine .of_record (readsRecord_input {}) (fun config input => { config with input }) rfl
        (fun _ _ => rfl) ?_
      simp [entries, Entry.record]
  case output =>
      refine .of_record (readsRecord_output {}) (fun config output => { config with output }) rfl
        (fun _ _ => rfl) ?_
      simp [entries, Entry.record]
  case log =>
      refine .of_record (readsRecord_log {}) (fun config log => { config with log }) rfl (fun _ _ => rfl) ?_
      simp [entries, Entry.record]
  case ext =>
      rintro ⟨_, _, _⟩ ⟨_, _, _⟩ same
      simpa [entries, Entry.record] using same

/-! ### Documents -/

/-- The text is an object with these members, behind blanks, and then these bytes. -/
def Document (text : String) (members : List (String × List UInt8)) (behind : List UInt8) : Prop :=
  ∃ before inner, Utf8.encode text = before ++ 0x7B :: (inner ++ behind) ∧ Blanks before ∧
    Keyed Spelt true members inner

variable {text : String} {members : List (String × List UInt8)} {behind : List UInt8}

/-- A document holds what is read of it, unless something comes behind that. -/
theorem ofDocument_of_read {α : Type} {read : Reader α} {bytes : List UInt8} {value : α}
    (taken : read bytes = .ok (value, behind)) :
    (Blanks behind → ofDocument read bytes = .ok value) ∧
      (¬ Blanks behind → ∃ refusal, ofDocument read bytes = .error refusal) := by
  have peeked : Reader.peekToken behind =
      .ok ((behind.dropWhile Reader.isBlank).head?, behind.dropWhile Reader.isBlank) := rfl
  rw [ofDocument, document, Reader.bind_of_ok taken, Reader.bind_of_ok peeked]
  cases left : behind.dropWhile Reader.isBlank with
  | nil =>
      have blank : Blanks behind := by
        intro byte among
        exact List.dropWhile_eq_nil_iff.mp left byte among
      exact ⟨fun _ => rfl, fun notBlank => absurd blank notBlank⟩
  | cons byte rest =>
      refine ⟨fun blank => ?_, fun _ => ⟨_, rfl⟩⟩
      rw [List.dropWhile_eq_nil_iff.mpr blank] at left
      cases left

theorem ofDocument_of_not_ok {α : Type} {read : Reader α} {bytes : List UInt8}
    (refused : ∀ result, read bytes ≠ .ok result) : ∃ refusal, ofDocument read bytes = .error refusal := by
  unfold ofDocument
  cases whole : document read bytes with
  | error refusal => exact ⟨_, rfl⟩
  | ok result =>
      obtain ⟨value, left, taken, -⟩ := Reader.exists_of_bind_ok whole
      exact absurd taken (refused _)

/-- A document that is an object with any members, in any order, with texts for keys. Where every known field
is given at most once, by bytes that give it a value, and every unknown key stands before a well-formed value,
in the object itself and in those of its entries, there is one configuration that has the given fields and the
defaults for all others, and the document is read as that one, unless more than blanks follow. Such a document
is refused where more does follow, and so is one that gives a known field twice or a capacity by a numeral with
a sign, a fraction or an exponent, or by one of a number that does not fit 64 bits. -/
theorem ofJson_merges (document : Document text members behind) :
    (Proper entries members → Blanks behind →
      ∃ config, ofJson text = .ok config ∧ ∀ other, Merges entries members {} other ↔ other = config) ∧
    (Spoilt entries members ∨ (Proper entries members ∧ ¬ Blanks behind) →
      ∃ refusal, ofJson text = .error refusal) := by
  obtain ⟨before, inner, written, blank, object⟩ := document
  unfold ofJson
  rw [written]
  constructor
  · intro proper blankBehind
    obtain ⟨config, unique, taken⟩ := readsRecord_config.exists_of_proper object proper
    exact ⟨config, (ofDocument_of_read (taken before behind blank)).1 blankBehind, unique⟩
  · rintro (spoilt | ⟨proper, notBlank⟩)
    · exact ofDocument_of_not_ok (readsRecord_config.not_ok_of_spoilt object spoilt blank behind)
    · obtain ⟨config, -, taken⟩ := readsRecord_config.exists_of_proper object proper
      exact (ofDocument_of_read (taken before behind blank)).2 notBlank

/-- A switch that is turned off, beside an unknown key with values nested in it; a field that is given twice;
and something behind a document. -/
theorem ofJson_merges_switch :
    let members := [("x", Utf8.encode "[\x7b\x7d]"),
      ("output", Utf8.encode "\x7b\"flush_before_input\":false\x7d")]
    let text := "\x7b\"x\":[\x7b\x7d],\"output\":\x7b\"flush_before_input\":false\x7d\x7d\n"
    let twice := [("log", Utf8.encode "\x7b\x7d"), ("log", Utf8.encode "\x7b\x7d")]
    let again := "\x7b\"log\":\x7b\x7d,\"log\":\x7b\x7d\x7d"
    (Document text members [0x0A] ∧ Proper entries members ∧ Merges entries members {} ⟨{}, ⟨false⟩, {}⟩ ∧
        ofJson text = .ok ⟨{}, ⟨false⟩, {}⟩) ∧
      (Document again twice [] ∧ Spoilt entries twice ∧ ∃ refusal, ofJson again = .error refusal) ∧
      Document "\x7b\x7dx" [] [0x78] ∧ Proper entries [] ∧ ∃ refusal, ofJson "\x7b\x7dx" = .error refusal := by
  intro members text twice again
  let off := [("flush_before_input", Utf8.encode "false")]
  have spelt : ∀ key : String, Text.Plain (Utf8.encode key) → Spelt (Utf8.encode key ++ [0x22]) key :=
    fun key plain => Text.spelling_plain plain
  have properOff : Proper outputEntries off := by
    refine ⟨by simp [outputEntries, off, timesGiven], ?_, ?_⟩
    · simp [outputEntries, off]
      exact .inl rfl
    · simp [outputEntries, off]
  have mergesOff : Merges outputEntries off {} ⟨false⟩ := by
    refine ⟨?_, ?_⟩
    · simp [outputEntries, off]
      rfl
    · simp [outputEntries, off, timesGiven]
  have objectOff : Keyed Spelt true off _ :=
    .member (.first .nil) (spelt "flush_before_input" (by decide +kernel)) .nil .nil (.done .nil)
  have outputOff : (Entry.record "output" Config.output outputEntries {}).Gives
      (Utf8.encode "\x7b\"flush_before_input\":false\x7d") ⟨false⟩ :=
    ⟨off, _, by decide +kernel, objectOff, properOff, mergesOff⟩
  have nested : Wellformed (Utf8.encode "[\x7b\x7d]") := by
    rw [show Utf8.encode "[\x7b\x7d]" = 0x5B :: ([] ++ ([0x7B, 0x7D] ++ [0x5D])) by decide +kernel]
    refine .list (.element (.first .nil) (.done .nil)) ?_
    intro element among
    obtain rfl : element = [0x7B, 0x7D] := by simpa using among
    exact @Wellformed.object [] _ (.done .nil) (by simp)
  have document : Document text members [0x0A] :=
    ⟨[], _, by decide +kernel, .nil, .member (.first .nil) (spelt "x" (by decide +kernel)) .nil .nil
      (.member (.comma .nil .nil) (spelt "output" (by decide +kernel)) .nil .nil (.done .nil))⟩
  have proper : Proper entries members := by
    refine ⟨by simp [entries, Entry.record, members, timesGiven], ?_, ?_⟩
    · simp [entries, members, Entry.record]
      exact ⟨_, outputOff⟩
    · simp [entries, members, Entry.record]
      rintro key bytes (⟨rfl, rfl⟩ | ⟨rfl, rfl⟩) noInput noOutput noLog
      · exact nested
      · exact absurd rfl noOutput
  have merges : Merges entries members {} ⟨{}, ⟨false⟩, {}⟩ := by
    refine ⟨?_, ?_⟩
    · simp [entries, members, Entry.record]
      exact outputOff
    · simp [entries, members, Entry.record, timesGiven]
  have documentAgain : Document again twice [] :=
    ⟨[], _, by decide +kernel, .nil, .member (.first .nil) (spelt "log" (by decide +kernel)) .nil .nil
      (.member (.comma .nil .nil) (spelt "log" (by decide +kernel)) .nil .nil (.done .nil))⟩
  have spoilt : Spoilt entries twice := by
    have empty : (Entry.record "log" Config.log logEntries {}).Gives (Utf8.encode "\x7b\x7d") {} :=
      ⟨[], _, by decide +kernel, .done .nil, proper_nil, merges_nil⟩
    refine ⟨⟨?_, ?_⟩, .inl ⟨_, .tail _ (.tail _ (.head _)), by decide⟩⟩
    · simp [entries, twice, Entry.record]
      exact .inl ⟨_, empty⟩
    · simp [entries, twice, Entry.record]
  have documentBehind : Document "\x7b\x7dx" [] [0x78] :=
    ⟨[], _, by decide +kernel, .nil, .done .nil⟩
  have blankLine : Blanks [0x0A] := by simp [Blanks, Reader.isBlank]
  have notBlank : ¬ Blanks [0x78] := by simp [Blanks, Reader.isBlank]
  obtain ⟨config, read, unique⟩ := (ofJson_merges document).1 proper blankLine
  obtain rfl := (unique _).mp merges
  exact ⟨⟨document, proper, merges, read⟩,
    ⟨documentAgain, spoilt, (ofJson_merges documentAgain).2 (.inl spoilt)⟩,
    documentBehind, proper_nil, (ofJson_merges documentBehind).2 (.inr ⟨proper_nil, notBlank⟩)⟩

end RootObject.Config
