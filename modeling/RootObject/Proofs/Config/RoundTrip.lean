import RootObject.Config.Printer
import RootObject.Config.Reader
import RootObject.Proofs.Json.Record

/-!
Configurations are read back from their JSON documents. Each reader takes the text that the printer
writes for a value as that value (`reads_readInput`, `reads_readOutput`, `reads_readLog`), so a document
is read as the configuration that it was written for, and different configurations have different
documents. Every configuration that any text is read as has a document again, since no reader comes back
with a capacity that does not fit 64 bits.
-/

namespace RootObject.Config

open Json

/-! ### How names and objects are written -/

theorem encode_quotes : Utf8.encode "\"" = [0x22] := by
  decide +kernel

theorem encode_jsonName (name : String) :
    Utf8.encode (jsonName name) = 0x22 :: (Utf8.encode name ++ [0x22]) := by
  rw [jsonName, Utf8.encode_append, Utf8.encode_append, encode_quotes]
  rfl

/-- A member as it is written. -/
def memberBytes (name text : String) : List UInt8 :=
  0x22 :: (Utf8.encode name ++ 0x22 :: 0x3A :: Utf8.encode text)

theorem encode_member (name text : String) :
    Utf8.encode ("\"" ++ name ++ "\":" ++ text) = memberBytes name text := by
  have colon : Utf8.encode "\":" = [0x22, 0x3A] := by decide +kernel
  simp [Utf8.encode_append, memberBytes, encode_quotes, colon]

/-- The members of an object with its end, each but the first behind a comma. -/
def membersBytes : Bool → List (String × String) → List UInt8
  | _, [] => [0x7D]
  | first, (name, text) :: members =>
      (if first then [] else [0x2C]) ++ (memberBytes name text ++ membersBytes false members)

theorem encode_jsonObject (members : List (String × String)) :
    Utf8.encode (jsonObject members) = 0x7B :: membersBytes true members := by
  have written : Utf8.encode (",".intercalate (members.map fun field => "\"" ++ field.1 ++ "\":" ++ field.2))
      ++ [0x7D] = membersBytes true members := by
    induction members with
    | nil => rfl
    | cons member members ih =>
        cases members with
        | nil => exact congrArg (· ++ [0x7D]) (encode_member member.1 member.2)
        | cons second members =>
            rw [List.map_cons] at ih
            rw [List.map_cons, List.map_cons, String.intercalate_cons_cons, Utf8.encode_append,
              Utf8.encode_append, encode_member, List.append_assoc, ih, List.append_assoc]
            rfl
  rw [jsonObject, Utf8.encode_append, Utf8.encode_append, List.append_assoc]
  exact congrArg (0x7B :: ·) written

/-! ### Objects that are written in the order of a record's fields -/

section Records

variable {α : Type} {fields before after : List (Json.Field α)} {field : Json.Field α} {value final : α}
  {members : List (String × String)}

/-- The members give the fields of a record in their order, each by a text that its reader takes, and
so turn one record into another. -/
inductive Fills : List (Json.Field α) → α → List (String × String) → α → Prop where
  | done {value : α} : Fills [] value [] value
  | field {field : Json.Field α} {fields : List (Json.Field α)} {value next final : α} {text : String}
      {members : List (String × String)} (reads : Reads (field.read value) (Utf8.encode text) next)
      (more : Fills fields next members final) :
      Fills (field :: fields) value ((field.name, text) :: members) final

theorem not_mem_of_nodup (distinct : ((before ++ field :: after).map Field.name).Nodup) :
    field.name ∉ before.map Field.name := by
  intro among
  rw [List.map_append, List.map_cons, List.nodup_append] at distinct
  exact distinct.2.2 _ among _ List.mem_cons_self rfl

theorem find?_of_nodup (distinct : ((before ++ field :: after).map Field.name).Nodup) :
    (before ++ field :: after).find? (fun other => other.name = field.name) = some field := by
  have elsewhere : before.find? (fun other => other.name = field.name) = none := by
    rw [List.find?_eq_none]
    intro other among same
    refine not_mem_of_nodup distinct ?_
    rw [← of_decide_eq_true same]
    exact List.mem_map_of_mem among
  rw [List.find?_append, elsewhere, Option.none_or, List.find?_cons_of_pos (by simp)]

/-- Behind the members of some fields, those of the others are read as what they fill the record with. -/
theorem Fills.behind (fills : Fills after value members final) (before : List (Json.Field α))
    (distinct : ((before ++ after).map Field.name).Nodup)
    (plain : ∀ field ∈ after, Text.Plain (Utf8.encode field.name)) :
    Members (before ++ after) (before.map Field.name).reverse value
      (membersBytes before.isEmpty members) final := by
  induction fills generalizing before with
  | done => exact .done .nil
  | @field field after value next final text members reads more ih =>
      have later : Members (before ++ field :: after) (field.name :: (before.map Field.name).reverse) next
          (membersBytes false members) final := by
        have ahead := ih (before ++ [field]) (by simpa using distinct)
          (fun field among => plain field (List.mem_cons_of_mem _ among))
        rw [show (before ++ [field]).isEmpty = false by cases before <;> rfl] at ahead
        simpa using ahead
      have parted : Parted (before.map Field.name).reverse.isEmpty
          (if before.isEmpty then [] else [0x2C]) := by
        rw [List.isEmpty_reverse, List.isEmpty_map]
        cases before with
        | nil => exact .first .nil
        | cons first before => exact .comma .nil .nil
      have new : field.name ∉ (before.map Field.name).reverse := by
        rw [List.mem_reverse]
        exact not_mem_of_nodup distinct
      have spells := Text.spells_plain (plain field List.mem_cons_self)
      have written := Members.field parted spells (find?_of_nodup distinct) new .nil reads later
      simpa [membersBytes, memberBytes] using written

/-- A record is read from an object that gives its fields in their order. -/
theorem Fills.reads (fills : Fills fields value members final) (typeName : String)
    (distinct : (fields.map Field.name).Nodup)
    (plain : ∀ field ∈ fields, Text.Plain (Utf8.encode field.name)) :
    Reads (readRecord typeName fields value) (Utf8.encode (jsonObject members)) final := by
  rw [encode_jsonObject]
  exact reads_readRecord typeName (fills.behind [] distinct plain)

end Records

/-! ### Reading what was written -/

/-- A variant is read from its name in quotes. -/
theorem reads_jsonName {α : Type} {variants : List (String × α)} {name : String} {value : α}
    (known : variants.lookup name = some value) (plain : Text.Plain (Utf8.encode name)) :
    Reads (readVariant variants) (Utf8.encode (jsonName name)) value := by
  rw [encode_jsonName]
  exact reads_readVariant (Text.spells_plain plain) known

theorem reads_readLevel (level : Log.Level) : Reads readLevel (Utf8.encode (jsonName level.name)) level := by
  apply reads_jsonName <;> cases level <;> decide +kernel

theorem reads_readFormat (format : Log.Format) :
    Reads readFormat (Utf8.encode (jsonName format.name)) format := by
  apply reads_jsonName <;> cases format <;> decide +kernel

/-- The level of a part of the program as it is written. -/
def levelText : Option Log.Level → String
  | some level => jsonName level.name
  | none => "null"

theorem reads_readOptional_level (level : Option Log.Level) :
    Reads (readOptional readLevel) (Utf8.encode (levelText level)) level := by
  cases level with
  | none => exact reads_readOptional_none _
  | some level =>
      have reads := reads_readLevel level
      rw [levelText]
      rw [encode_jsonName] at reads ⊢
      exact reads_readOptional_some reads (by decide) (by decide)

theorem reads_readTerminator (terminator : LineTerminator) :
    Reads (readVariant (LineTerminator.all.map fun terminator => (terminator.name, terminator)))
      (Utf8.encode (jsonName terminator.name)) terminator := by
  apply reads_jsonName <;> cases terminator <;> decide +kernel

theorem reads_readInput (default input : Input) (fits : input.initialCapacity ≤ Number.maxSignificand) :
    Reads (readInput default)
      (Utf8.encode (jsonObject [
        ("initial_capacity", Decimal.ofNat input.initialCapacity),
        ("line_terminator", jsonName input.lineTerminator.name)])) input := by
  have capacity := reads_readSize fits
  have terminator := reads_readTerminator input.lineTerminator
  refine Fills.reads ?_ _ (by decide) (by decide +kernel)
  exact .field (capacity.map _) (.field (terminator.map _) .done)

theorem reads_readOutput (default output : Output) :
    Reads (readOutput default)
      (Utf8.encode (jsonObject [("flush_before_input", boolText output.flushBeforeInput)])) output := by
  have flush := reads_readBool output.flushBeforeInput
  refine Fills.reads ?_ _ (by decide) (by decide +kernel)
  exact .field (flush.map _) .done

theorem reads_readLog (default log : Log.Settings) :
    Reads (readLog default)
      (Utf8.encode (jsonObject [
        ("level", jsonName log.level.name),
        ("format", jsonName log.format.name),
        ("object", levelText log.object),
        ("io", levelText log.io),
        ("dispatch", levelText log.dispatch)])) log := by
  have level := reads_readLevel log.level
  have format := reads_readFormat log.format
  have object := reads_readOptional_level log.object
  have io := reads_readOptional_level log.io
  have dispatch := reads_readOptional_level log.dispatch
  refine Fills.reads ?_ _ (by decide) (by decide +kernel)
  exact .field (level.map _) (.field (format.map _)
    (.field (object.map _) (.field (io.map _) (.field (dispatch.map _) .done))))

theorem reads_readConfig (config : Config) (fits : config.input.initialCapacity ≤ Number.maxSignificand) :
    Reads readConfig (Utf8.encode config.json) config := by
  have input := reads_readInput {} config.input fits
  have output := reads_readOutput {} config.output
  have log := reads_readLog {} config.log
  refine Fills.reads ?_ _ (by decide) (by decide +kernel)
  exact .field (input.map _) (.field (output.map _) (.field (log.map _) .done))

/-! ### What any document holds -/

/-- Where a reader takes all bytes of a document, it is read as the value. -/
theorem ofDocument_of_reads {α : Type} {read : Reader α} {bytes : List UInt8} {value : α}
    (reads : Reads read bytes value) : ofDocument read bytes = .ok value := by
  have taken := reads [] [] .nil .nil
  rw [List.nil_append, List.append_nil] at taken
  rw [ofDocument, document, Reader.bind_of_ok taken]
  rfl

theorem good_of_ofDocument {α : Type} {good : α → Prop} {read : Reader α} (yields : Yields good read)
    {bytes : List UInt8} {value : α} (is : ofDocument read bytes = .ok value) : good value := by
  have document : Yields good (document read) := by
    refine yields.bind fun value is => .bind_any fun next => ?_
    split
    · exact .pure is
    · exact .refuseNext _
  unfold ofDocument at is
  split at is
  · next ok =>
      cases is
      exact document _ _ _ ok
  · cases is

theorem yields_readInput {default : Input} (fits : default.initialCapacity ≤ Number.maxSignificand) :
    Yields (fun input : Input => input.initialCapacity ≤ Number.maxSignificand) (readInput default) := by
  refine yields_readRecord ?_ _ fits
  intro field mem input fits
  simp only [List.mem_cons, List.not_mem_nil, or_false] at mem
  rcases mem with rfl | rfl
  · exact yields_readSize.bind fun size fits => .pure fits
  · exact .bind_any fun terminator => .pure fits

theorem yields_readConfig :
    Yields (fun config => config.input.initialCapacity ≤ Number.maxSignificand) readConfig := by
  refine yields_readRecord ?_ _ (by decide)
  intro field mem config fits
  simp only [List.mem_cons, List.not_mem_nil, or_false] at mem
  rcases mem with rfl | rfl | rfl
  · exact (yields_readInput (by decide)).bind fun input fits => .pure fits
  · exact .bind_any fun output => .pure fits
  · exact .bind_any fun log => .pure fits

/-! ### Configurations and their documents -/

/-- The document of a configuration is read as that configuration; so what any text is read as has a
document that is read the same, and no two configurations share a document. -/
theorem json_roundTrip :
    (∀ config : Config, config.input.initialCapacity < 0x10000000000000000 →
      ofJson config.json = .ok config) ∧
    (∀ (text : String) (config : Config), ofJson text = .ok config → ofJson config.json = .ok config) ∧
    ∀ first second : Config, first.input.initialCapacity < 0x10000000000000000 →
      second.input.initialCapacity < 0x10000000000000000 → first.json = second.json → first = second := by
  have roundTrip (config : Config) (fits : config.input.initialCapacity < 0x10000000000000000) :
      ofJson config.json = .ok config :=
    ofDocument_of_reads (reads_readConfig config (Nat.le_of_lt_succ fits))
  refine ⟨roundTrip, ?_, ?_⟩
  · intro text config is
    have fits := good_of_ofDocument yields_readConfig is
    exact roundTrip config (Nat.lt_succ_of_le fits)
  · intro first second fitsFirst fitsSecond same
    have read := roundTrip first fitsFirst
    rw [same, roundTrip second fitsSecond] at read
    exact (Except.ok.inj read).symm

/-- The largest capacity, and levels for some parts of the program; and a text with blanks, an unknown
key and a list for a record, which has another document. -/
theorem json_roundTrip_extremes :
    let config : Config := ⟨⟨0xFFFFFFFFFFFFFFFF, .keep⟩, ⟨false⟩, ⟨.trace, .json, none, some .error, some .warn⟩⟩
    let text := " \x7b \"x\" : [-0.5e1, null] , \"log\" : [\"info\"] \x7d\n"
    let other : Config := ⟨{}, {}, ⟨.info, .compact, none, none, none⟩⟩
    config.input.initialCapacity < 0x10000000000000000 ∧ ofJson config.json = .ok config ∧
      ofJson text = .ok other ∧ ofJson other.json = .ok other ∧
      config.json = (config.overriddenBy 0 none).json ∧ config = config.overriddenBy 0 none := by
  intro config text other
  have largest : config.input.initialCapacity < 0x10000000000000000 := by decide
  have read : ofJson text = .ok other := by decide +kernel
  refine ⟨largest, json_roundTrip.1 config largest, read, json_roundTrip.2.1 text other read, rfl, ?_⟩
  exact json_roundTrip.2.2 config (config.overriddenBy 0 none) largest largest rfl

end RootObject.Config
