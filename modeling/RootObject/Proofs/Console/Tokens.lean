import RootObject.Proofs.Console.Values

/-!
Literals read from a stream in whatever state it is. A token is taken from the stream before it is looked
at, so what reading a literal leaves does not depend on what the token turns out to be
(`Base.inputLiteral_takes`). Bytes that are no text are read with U+FFFD in their place, which no literal
is written with, so a token with such bytes is malformed. `Base.literals_end` says of both methods how
they end and what they leave.
-/

namespace RootObject

/-! ### Tokens that are no literals -/

namespace Literal

/-- No literal is written with U+FFFD. -/
theorem parseInt32_of_replacement {text : String} (mem : Utf8.replacement ∈ text.toList) :
    parseInt32 text = .error .malformed := by
  refine parseInt32_eq_malformed_iff.mpr ?_
  rintro ⟨n, denotes⟩
  exact absurd (denotes.mem_alphabet mem) (by decide)

theorem replacement_not_mem_bool (value : Bool) :
    Utf8.replacement ∉ (if value then "true" else "false").toList := by
  cases value <;> decide

/-- A token is read as a boolean from the bytes of that boolean only. -/
theorem parseBool_decode_eq_ok_iff {bytes : List UInt8} {value : Bool} :
    parseBool (Utf8.decode bytes) = .ok value ↔
      bytes = Utf8.encode (if value then "true" else "false") := by
  rw [parseBool_eq_ok_iff]
  exact Utf8.decode_eq_iff (replacement_not_mem_bool value)

theorem parseBool_decode_eq_malformed_iff {bytes : List UInt8} :
    parseBool (Utf8.decode bytes) = .error .malformed ↔
      ∀ value : Bool, bytes ≠ Utf8.encode (if value then "true" else "false") := by
  rw [parseBool_eq_malformed_iff]
  exact forall_congr' fun value => not_congr (Utf8.decode_eq_iff (replacement_not_mem_bool value))

end Literal

/-! ### Streams in any state -/

/-- Where no failure awaits a stream, it is told by the bytes that remain, whether one is pushed back
and whether its end has been reached. -/
theorem Stream.holds_remaining {stream : Stream}
    (steady : stream.atEnd = false → stream.source.Steady) :
    stream.Holds stream.capacity stream.remaining := by
  refine ⟨?_, rfl⟩
  unfold arrivals remaining
  cases ended : stream.atEnd with
  | true => simp
  | false => simp [(steady ended).arrivals_eq, Arrival.ofBytes]

/-! ### Reading a literal -/

namespace Base

variable {α : Type} {method : Method} {expected : LiteralKind}
  {parse : String → Except LiteralError α} {parsed : α → Log.Event} {token : String}

theorem ofToken_eq_returned_iff {value : α} :
    ofToken method expected parse token = .returned value ↔ parse token = .ok value := by
  unfold ofToken
  cases parse token <;> simp

theorem ofToken_eq_outOfRange_iff :
    ofToken method expected parse token = .failed (.outOfRange method token) ↔
      parse token = .error .outOfRange := by
  unfold ofToken
  cases parse token with
  | ok value => simp
  | error error => cases error <;> simp [Fault.ofLiteral]

theorem ofToken_eq_malformedToken_iff :
    ofToken method expected parse token = .failed (.malformedToken method token expected) ↔
      parse token = .error .malformed := by
  unfold ofToken
  cases parse token with
  | ok value => simp
  | error error => cases error <;> simp [Fault.ofLiteral]

/-- The blanks and the token behind them are taken, and what stands behind the token is read next,
whatever the token is. -/
theorem inputLiteral_takes (method : Method) (expected : LiteralKind)
    (parse : String → Except LiteralError α) (parsed : α → Log.Event) {console : Console}
    (steady : console.stream.atEnd = false → console.stream.source.Steady)
    (healthy : console.sink.Healthy)
    (granted : Buffer.Granted console.stream.capacity
      (Reader.token console.stream.remaining).length) :
    let outcome := inputLiteral method expected parse parsed console
    outcome.ending =
      ofToken method expected parse (Utf8.decode (Reader.token console.stream.remaining)) ∧
    outcome.state.stream.remaining = Reader.afterToken console.stream.remaining ∧
    (Stream.nextByte outcome.state.stream).ending =
      .returned (Reader.afterToken console.stream.remaining).head? := by
  have holds : console.Holds console.settings console.stream.capacity console.stream.remaining :=
    ⟨rfl, Stream.holds_remaining steady, healthy⟩
  obtain ⟨ending, left⟩ := inputLiteral_ends method expected parse parsed holds granted
  exact ⟨ending, left.stream.remaining, (Stream.nextByte_ends left.stream).1⟩

/-- An integer and a boolean are read alike up to the end of the token: the blanks before it and the
token itself are gone, and what follows is as it was, also where the token is refused. The value is the
one that the token is a literal of. A token that is none is told with the fault, as the text that its
bytes are read as; an integer that 32 bits do not hold is told apart, and a token that is no text is
refused by both. -/
theorem literals_end (console : Console)
    (steady : console.stream.atEnd = false → console.stream.source.Steady)
    (healthy : console.sink.Healthy)
    (granted : Buffer.Granted console.stream.capacity
      (Reader.token console.stream.remaining).length) :
    let bytes := console.stream.remaining
    let token := Reader.token bytes
    let text := Utf8.decode token
    let integer := inputInt32 console
    let boolean := inputBool console
    bytes.takeWhile isSpace ++ token ++ Reader.afterToken bytes = bytes ∧
    (bytes.all isSpace = true → text = "") ∧
    (∀ stream, stream = integer.state.stream ∨ stream = boolean.state.stream →
      stream.remaining = Reader.afterToken bytes ∧
      (Stream.nextByte stream).ending = .returned (Reader.afterToken bytes).head?) ∧
    ((∀ value, integer.ending = .returned value ↔ parseInt32 text = .ok value) ∧
      (integer.ending = .failed (.outOfRange .inputInt32 text) ↔
        ∃ n, Literal.Integer text.toList n ∧ ¬ Literal.Fits n) ∧
      (integer.ending = .failed (.malformedToken .inputInt32 text .integer) ↔
        ¬ ∃ n, Literal.Integer text.toList n)) ∧
    ((∀ value, boolean.ending = .returned value ↔
        token = Utf8.encode (if value then "true" else "false")) ∧
      (boolean.ending = .failed (.malformedToken .inputBool text .boolean) ↔
        ∀ value : Bool, token ≠ Utf8.encode (if value then "true" else "false"))) ∧
    (¬ Utf8.Valid token →
      integer.ending = .failed (.malformedToken .inputInt32 text .integer) ∧
      boolean.ending = .failed (.malformedToken .inputBool text .boolean)) := by
  intro bytes token text integer boolean
  obtain ⟨read, left, next⟩ := inputLiteral_takes .inputInt32 .integer parseInt32
    (.integerParsed .inputInt32) steady healthy granted
  obtain ⟨read', left', next'⟩ := inputLiteral_takes .inputBool .boolean parseBool
    (.booleanParsed .inputBool) steady healthy granted
  change integer.ending = ofToken .inputInt32 .integer parseInt32 text at read
  change boolean.ending = ofToken .inputBool .boolean parseBool text at read'
  refine ⟨Reader.throughToken_append bytes, ?blank, ?left, ?integer, ?boolean, ?invalid⟩
  case blank =>
      intro blank
      change Utf8.decode (Reader.token bytes) = ""
      rw [(Reader.token_of_blanks blank).1]
      rfl
  case left =>
      rintro stream (rfl | rfl)
      · exact ⟨left, next⟩
      · exact ⟨left', next'⟩
  case integer =>
      rw [read]
      exact ⟨fun value => ofToken_eq_returned_iff,
        ofToken_eq_outOfRange_iff.trans Literal.parseInt32_eq_outOfRange_iff,
        ofToken_eq_malformedToken_iff.trans Literal.parseInt32_eq_malformed_iff⟩
  case boolean =>
      rw [read']
      exact ⟨fun value => ofToken_eq_returned_iff.trans Literal.parseBool_decode_eq_ok_iff,
        ofToken_eq_malformedToken_iff.trans Literal.parseBool_decode_eq_malformed_iff⟩
  case invalid =>
      intro invalid
      have mem := Utf8.replacement_mem_decode invalid
      rw [read, read', ofToken_eq_malformedToken_iff, ofToken_eq_malformedToken_iff]
      refine ⟨Literal.parseInt32_of_replacement mem, ?_⟩
      refine Literal.parseBool_eq_malformed_iff.mpr fun value same => ?_
      exact Literal.replacement_not_mem_bool value (same ▸ mem)

/-- A byte pushed back and a read interrupted before a number that is too large by one. -/
theorem literals_end_too_large :
    let stream := (Stream.ofSource
      [.data [0x09], .failure ⟨.interrupted, none⟩,
        .data [0x32, 0x31, 0x34, 0x37, 0x34, 0x38, 0x33, 0x36, 0x34, 0x38, 0x0D, 0x78], .nothing,
        .failure ⟨.other, none⟩] 4).withPushedBack 0x0A
    let console : Console := ⟨{}, stream, .reliable⟩
    (stream.atEnd = false → stream.source.Steady) ∧ console.sink.Healthy ∧
    Buffer.Granted stream.capacity (Reader.token stream.remaining).length ∧
    (inputInt32 console).ending = .failed (.outOfRange .inputInt32 "2147483648") ∧
    (inputBool console).ending = .failed (.malformedToken .inputBool "2147483648" .boolean) ∧
    (inputInt32 console).state.stream.remaining = [0x0D, 0x78] ∧
    (inputBool console).state.stream.remaining = [0x0D, 0x78] := by
  intro stream console
  have steady : stream.atEnd = false → stream.source.Steady := fun _ => ⟨rfl, trivial⟩
  have healthy : console.sink.Healthy := by
    intro error refused
    simp [console, Sink.reliable, Sink.scripted] at refused
  have granted : Buffer.Granted stream.capacity (Reader.token stream.remaining).length :=
    Buffer.granted_of_lt (by decide +kernel) (by decide +kernel)
  obtain ⟨-, -, left, ⟨-, large, -⟩, ⟨-, refused⟩, -⟩ := literals_end console steady healthy granted
  have read : Utf8.decode (Reader.token stream.remaining) = "2147483648" := by decide +kernel
  have rest : Reader.afterToken stream.remaining = [0x0D, 0x78] := by decide +kernel
  change Utf8.decode (Reader.token console.stream.remaining) = _ at read
  rw [read] at large refused
  refine ⟨steady, healthy, granted, large.mpr ?_, refused.mpr ?_, ?_, ?_⟩
  · exact Literal.parseInt32_eq_outOfRange_iff.mp (by decide +kernel)
  · decide +kernel
  · exact (left _ (.inl rfl)).1.trans rest
  · exact (left _ (.inr rfl)).1.trans rest

end Base
end RootObject
