import RootObject.Proofs.Console.Delivery
import RootObject.Proofs.Console.Pieces
import RootObject.Proofs.Console.Writing
import RootObject.Proofs.Literal.Decimal

/-!
Values printed with blanks between them, and read again one by one. The text of a value is a literal of
it and has no blank in it, so each read drops the blanks before a value, takes the value, and leaves the
blanks behind it to the next (`input_ends`).
-/

namespace RootObject

/-! ### Words between blanks -/

namespace Reader

variable {blanks word rest : List UInt8}

/-- Between blanks a word is what is taken, and what stands behind it is left. -/
theorem token_of_word (blank : blanks.all isSpace = true) (solid : word.all (!isSpace ·) = true)
    (nonempty : word ≠ []) (ends : ∀ b, rest.head? = some b → isSpace b = true) :
    token (blanks ++ word ++ rest) = word ∧ afterToken (blanks ++ word ++ rest) = rest := by
  have begins : ∀ b, (word ++ rest).head? = some b → isSpace b = false := by
    intro b head
    rw [List.head?_append_of_ne_nil _ nonempty] at head
    simpa using List.all_eq_true.mp solid b (List.mem_of_mem_head? head)
  have word_only := List.all_eq_true.mp solid
  rw [token, afterToken, List.append_assoc, Demand.dropWhile_blanks blank _ begins,
    List.takeWhile_append_of_pos word_only, List.dropWhile_append_of_pos word_only]
  cases rest with
  | nil => simp
  | cons b rest => simp [ends b rfl]

/-- Where there are only blanks, there is no word, and nothing is left. -/
theorem token_of_blanks (blank : blanks.all isSpace = true) :
    token blanks = [] ∧ afterToken blanks = [] := by
  have dropped := Demand.dropWhile_blanks blank [] (fun b head => by cases head)
  rw [List.append_nil] at dropped
  simp [token, afterToken, dropped]

end Reader

/-! ### Values -/

/-- A value that is written as a literal. -/
inductive Value where
  | bool (value : Bool)
  | int32 (value : Int32)
  deriving DecidableEq, Repr

namespace LiteralKind

/-- The method that reads a literal of the kind. -/
def method : LiteralKind → Method
  | .boolean => .inputBool
  | .integer => .inputInt32

def parse : LiteralKind → String → Except LiteralError Value
  | .boolean, token => (parseBool token).map .bool
  | .integer, token => (parseInt32 token).map .int32

/-- Reads a value of the kind as the root class does. -/
def input : LiteralKind → Action Console Fault Value
  | .boolean => do return .bool (← Base.inputBool)
  | .integer => do return .int32 (← Base.inputInt32)

theorem parse_empty (kind : LiteralKind) : kind.parse "" = .error .malformed := by
  cases kind <;> decide

end LiteralKind

namespace Value

def kind : Value → LiteralKind
  | .bool _ => .boolean
  | .int32 _ => .integer

def printing : Value → Printing
  | .bool value => .bool value
  | .int32 value => .int32 value

/-- The literal that is written for the value. -/
def text (value : Value) : String :=
  value.printing.shown

theorem parse_text (value : Value) : value.kind.parse value.text = .ok value := by
  cases value with
  | bool value =>
      have read : parseBool (Value.bool value).text = .ok value := Literal.parseBool_eq_ok_iff.mpr rfl
      rw [kind, LiteralKind.parse, read]
      rfl
  | int32 value =>
      have read : parseInt32 (Value.int32 value).text = .ok value := Literal.parseInt32_toString value
      rw [kind, LiteralKind.parse, read]
      rfl

theorem text_ne_empty (value : Value) : value.text ≠ "" := by
  intro empty
  have read := value.parse_text
  rw [empty, LiteralKind.parse_empty] at read
  cases read

/-- No literal has a blank in it. -/
theorem solid_text (value : Value) : (Utf8.encode value.text).all (!isSpace ·) = true := by
  have solid : value.text.toList.all (!Console.blanks.contains ·) = true := by
    cases value with
    | bool value => cases value <;> decide
    | int32 value =>
        have known : Literal.alphabet.all (!Console.blanks.contains ·) = true := by decide
        rw [List.all_eq_true] at known ⊢
        intro c mem
        change c ∈ (toString value.toInt).toList at mem
        rw [← Decimal.ofInt_eq_toString] at mem
        exact known c ((Literal.integer_ofInt _).mem_alphabet mem)
  simp only [List.all_eq_true, Bool.not_eq_true'] at solid ⊢
  exact Console.separators_isSpace.forall_encode solid

theorem length_text_le (value : Value) : value.text.toList.length ≤ 11 := by
  cases value with
  | bool value => cases value <;> decide
  | int32 value => exact Literal.length_toString_le value

theorem granted_text {capacity : Nat} (small : capacity < Buffer.limit) (value : Value) :
    Buffer.Granted (max capacity 1) (Utf8.encode value.text).length := by
  have short := value.length_text_le
  have few := Utf8.length_encode_le value.text
  unfold Buffer.limit at small
  apply Buffer.granted_of_lt
  · unfold Buffer.limit
    omega
  · unfold Buffer.limit
    omega

end Value

/-! ### Reading one value -/

section

open RootObject.Action

variable {settings : Console.Settings} {capacity : Nat} {bytes : List UInt8} {console : Console}

/-- What is made of a token may be told in other terms. -/
theorem Base.map_ofToken {α β : Type} (f : α → β) (method : Method) (expected : LiteralKind)
    (parse : String → Except LiteralError α) (token : String) :
    (ofToken method expected parse token).map f =
      ofToken method expected (fun token => (parse token).map f) token := by
  unfold ofToken
  cases read : parse token <;> simp [Ending.map, Except.map, read]

/-- The next token is read, as a value of the kind if it is one. -/
theorem LiteralKind.input_ends (kind : LiteralKind) (holds : console.Holds settings capacity bytes)
    (granted : Buffer.Granted capacity (Reader.token bytes).length) :
    Ends kind.input console
      (Base.ofToken kind.method kind kind.parse (Utf8.decode (Reader.token bytes)))
      (Console.Holds settings capacity (Reader.afterToken bytes)) := by
  cases kind with
  | boolean =>
      have read := Base.inputLiteral_ends .inputBool .boolean parseBool (.booleanParsed .inputBool)
        holds granted
      have told := read.bind_pure Value.bool
      rw [Base.map_ofToken] at told
      exact told
  | integer =>
      have read := Base.inputLiteral_ends .inputInt32 .integer parseInt32 (.integerParsed .inputInt32)
        holds granted
      have told := read.bind_pure Value.int32
      rw [Base.map_ofToken] at told
      exact told

/-- Where only blanks are left, no value is read. -/
theorem LiteralKind.input_of_blanks (kind : LiteralKind) (small : capacity < Buffer.limit)
    (blank : bytes.all isSpace = true) (holds : console.Holds settings capacity bytes) :
    (kind.input console).ending = .failed (.malformedToken kind.method "" kind) := by
  obtain ⟨none, -⟩ := Reader.token_of_blanks blank
  have granted : Buffer.Granted capacity (Reader.token bytes).length := by
    rw [none]
    exact Buffer.granted_of_lt small (by decide)
  have read := (kind.input_ends holds granted).ending
  rw [none] at read
  rw [read, Base.ofToken, show Utf8.decode [] = "" from rfl, kind.parse_empty]
  rfl

/-- A value between blanks is read, and what stands behind it is left. -/
theorem Value.input_ends (value : Value) {blanks rest : List UInt8} (small : capacity < Buffer.limit)
    (blank : blanks.all isSpace = true) (ends : ∀ b, rest.head? = some b → isSpace b = true)
    (holds : console.Holds settings (max capacity 1) (blanks ++ Utf8.encode value.text ++ rest)) :
    Ends value.kind.input console (.returned value)
      (Console.Holds settings (max capacity 1) rest) := by
  have nonempty := Utf8.encode_ne_nil value.text_ne_empty
  obtain ⟨word, left⟩ := Reader.token_of_word blank value.solid_text nonempty ends
  have read := value.kind.input_ends holds (word.symm ▸ value.granted_text small)
  rw [word, left, Utf8.decode_encode, Base.ofToken, value.parse_text] at read
  exact read

end

/-! ### Values one after another -/

/-- A value, and the text that is put before it. -/
structure Spaced where
  front : String
  value : Value

namespace Spaced

open RootObject.Action

variable {settings : Console.Settings} {capacity : Nat} {written : List UInt8} {console : Console}

def bytes (item : Spaced) : List UInt8 :=
  Utf8.encode item.front ++ Utf8.encode item.value.text

def print (item : Spaced) : Action Console Fault Unit := do
  let _ ← Base.print item.front
  let _ ← item.value.printing.base

/-- Prints values with the texts before them, and a text behind the last. -/
def printAll (items : List Spaced) (back : String) : Action Console Fault Unit := do
  items.forM print
  let _ ← Base.print back

/-- Reads a value of each kind in turn. -/
def readAll (kinds : List LiteralKind) : Action Console Fault (List Value) :=
  kinds.mapM LiteralKind.input

theorem print_wrote (item : Spaced) (wrote : console.Wrote written) :
    Ends item.print console (.returned ()) (Console.Wrote (written ++ item.bytes)) := by
  rw [bytes, ← List.append_assoc]
  refine (Base.write_wrote wrote .print item.front).bind fun console wrote => ?_
  rw [item.value.printing.base_eq]
  refine (Base.write_wrote wrote _ item.value.text).bind fun console wrote => ?_
  exact .pure wrote

theorem forM_print_wrote (items : List Spaced) (wrote : console.Wrote written) :
    Ends (items.forM print) console (.returned ())
      (Console.Wrote (written ++ items.flatMap bytes)) := by
  induction items generalizing console written with
  | nil =>
      rw [List.flatMap_nil, List.append_nil]
      exact .pure wrote
  | cons item items ih =>
      rw [List.flatMap_cons, ← List.append_assoc]
      exact (item.print_wrote wrote).bind fun console wrote => ih wrote

theorem printAll_wrote (items : List Spaced) (back : String) (wrote : console.Wrote written) :
    Ends (printAll items back) console (.returned ())
      (Console.Wrote (written ++ (items.flatMap bytes ++ Utf8.encode back))) := by
  rw [← List.append_assoc]
  refine (forM_print_wrote items wrote).bind fun console wrote => ?_
  refine (Base.write_wrote wrote .print back).bind fun console wrote => ?_
  exact .pure wrote

/-- The text is made of blanks. -/
def Blank (text : String) : Prop :=
  ∀ c ∈ text.toList, c ∈ Console.blanks

instance (text : String) : Decidable (Blank text) :=
  List.decidableBAll _ text.toList

theorem Blank.bytes {text : String} (blank : Blank text) : (Utf8.encode text).all isSpace = true := by
  rw [List.all_eq_true]
  refine Console.separators_isSpace.forall_encode fun c mem => ?_
  exact List.contains_iff_mem.mpr (blank c mem)

/-- What is put behind a value begins with a blank, if there is anything. -/
theorem head?_bytes {items : List Spaced} {back : String}
    (blank : ∀ item ∈ items, Blank item.front) (apart : ∀ item ∈ items, item.front ≠ "")
    (blankBack : Blank back) (b : UInt8)
    (head : (items.flatMap bytes ++ Utf8.encode back).head? = some b) : isSpace b = true := by
  cases items with
  | nil => exact List.all_eq_true.mp blankBack.bytes b (List.mem_of_mem_head? head)
  | cons item items =>
      have nonempty := Utf8.encode_ne_nil (apart item List.mem_cons_self)
      rw [List.flatMap_cons, bytes, List.append_assoc, List.append_assoc,
        List.head?_append_of_ne_nil _ nonempty] at head
      have front := (blank item List.mem_cons_self).bytes
      exact List.all_eq_true.mp front b (List.mem_of_mem_head? head)

theorem readAll_ends {items : List Spaced} {back : String} (small : capacity < Buffer.limit)
    (blank : ∀ item ∈ items, Blank item.front) (apart : ∀ item ∈ items.tail, item.front ≠ "")
    (blankBack : Blank back)
    (holds : console.Holds settings (max capacity 1) (items.flatMap bytes ++ Utf8.encode back)) :
    Ends (readAll (items.map (·.value.kind))) console (.returned (items.map Spaced.value))
      (Console.Holds settings (max capacity 1) (Utf8.encode back)) := by
  induction items generalizing console with
  | nil => exact .pure holds
  | cons item items ih =>
      have blankRest : ∀ item ∈ items, Blank item.front :=
        fun item among => blank item (List.mem_cons_of_mem _ among)
      have first := (blank item List.mem_cons_self).bytes
      rw [List.flatMap_cons, bytes, List.append_assoc] at holds
      unfold readAll
      rw [List.map_cons, List.mapM_cons]
      refine (item.value.input_ends small first (head?_bytes blankRest apart blankBack) holds).bind ?_
      intro console holds
      refine (ih blankRest (fun item among => apart item (List.mem_of_mem_tail among)) holds).bind ?_
      intro console holds
      exact .pure holds

/-- Booleans and integers printed with blanks between them are read again as they were, however the
sink takes them and however the bytes come in. The blanks behind the last value are left, and where one
more value is asked for there is none. -/
theorem readAll_printAll (items : List Spaced) (back : String) (writer : Console)
    (blank : ∀ item ∈ items, Blank item.front) (apart : ∀ item ∈ items.tail, item.front ≠ "")
    (blankBack : Blank back) (goesOn : writer.sink.GoesOn) :
    ∃ written,
      Ends (printAll items back) writer (.returned ())
        (fun left => left.sink.accepted = writer.sink.accepted ++ written) ∧
      ∀ (source : Source) (capacity : Nat) (settings : Console.Settings) (sink : Sink),
        source.Steady → source.data = written → sink.Healthy → capacity < Buffer.limit →
        Ends (readAll (items.map (·.value.kind))) ⟨settings, Stream.ofSource source capacity, sink⟩
          (.returned (items.map Spaced.value)) fun left =>
            left.stream.remaining = Utf8.encode back ∧
            ∀ kind : LiteralKind,
              (kind.input left).ending = .failed (.malformedToken kind.method "" kind) := by
  have started : writer.Wrote writer.sink.accepted := ⟨goesOn, rfl⟩
  have printed := printAll_wrote items back started
  refine ⟨items.flatMap bytes ++ Utf8.encode back, ⟨printed.ending, printed.left.accepted⟩, ?_⟩
  intro source capacity settings sink steady data healthy small
  have holds := Console.holds_ofSource settings steady capacity healthy
  rw [data] at holds
  obtain ⟨ending, left⟩ := readAll_ends small blank apart blankBack holds
  refine ⟨ending, left.stream.remaining, ?_⟩
  intro kind
  have small' : max capacity 1 < Buffer.limit := by
    unfold Buffer.limit at small ⊢
    omega
  exact kind.input_of_blanks small' blankBack.bytes left

/-- The least and the largest integer and a boolean, between all kinds of blanks, written in pieces and
read in others by a console that keeps line ends. -/
theorem readAll_printAll_extremes :
    let items : List Spaced := [⟨"\n", .int32 (-2147483648)⟩, ⟨" \t", .bool false⟩,
      ⟨"\x0B\x0C\r", .int32 2147483647⟩]
    let writer : Console := ⟨{}, Stream.ofSource [] 1,
      .scripted [.acceptAtMost 1, .refuse ⟨.interrupted, none⟩, .acceptAtMost 3]⟩
    let reader : Console := ⟨⟨.keep, true⟩, Stream.ofSource [.data [0x0A, 0x2D], .failure ⟨.interrupted, none⟩,
      .data (Utf8.encode "2147483648 \tfalse\x0B\x0C\r21474"), .data (Utf8.encode "83647\n \n")] 0, .reliable⟩
    (printAll items "\n \n" writer).state.sink.accepted = reader.stream.remaining ∧
      Ends (readAll [.integer, .boolean, .integer]) reader
        (.returned [.int32 (-2147483648), .bool false, .int32 2147483647]) fun left =>
          left.stream.remaining = [0x0A, 0x20, 0x0A] ∧
          ∀ kind : LiteralKind,
            (kind.input left).ending = .failed (.malformedToken kind.method "" kind) := by
  intro items writer reader
  have blank : ∀ item ∈ items, Blank item.front := by decide
  have apart : ∀ item ∈ items.tail, item.front ≠ "" := by decide
  have blankBack : Blank "\n \n" := by decide
  have goesOn : writer.sink.GoesOn := by decide
  obtain ⟨written, printed, read⟩ := readAll_printAll items "\n \n" writer blank apart blankBack goesOn
  have bytes : (printAll items "\n \n" writer).state.sink.accepted = reader.stream.remaining := by
    decide +kernel
  have same : reader.stream.remaining = written := bytes.symm.trans printed.left
  refine ⟨bytes, read _ 0 ⟨.keep, true⟩ .reliable ⟨rfl, trivial⟩ ?_ ?_ (by decide)⟩
  · rw [← same]
    decide +kernel
  · exact Sink.neverFails_reliable.healthy

end Spaced
end RootObject
