import RootObject.Base
import RootObject.Proofs.Input.Bytes

/-!
What consoles read, against a sequential reader of the bytes that remain. A line is what stands before
the next line end, a token the next run without blanks (`Reader`). A console over a stream that no
failure awaits, with a sink that refuses nothing, reads just this and leaves the rest (`readLine_ends`,
`readToken_ends`).
-/

namespace RootObject

/-! ### The sequential reader -/

namespace Reader

/-- The bytes before the next line end, or all of them. -/
def line (bytes : List UInt8) : List UInt8 :=
  bytes.takeWhile (!isLineEnd ·)

/-- What reading a line leaves: with `consume` the line end is gone too. -/
def afterLine (terminator : LineTerminator) (bytes : List UInt8) : List UInt8 :=
  match terminator with
  | .consume => (bytes.dropWhile (!isLineEnd ·)).tail
  | .keep => bytes.dropWhile (!isLineEnd ·)

/-- The next run of bytes that are no blanks. -/
def token (bytes : List UInt8) : List UInt8 :=
  (bytes.dropWhile isSpace).takeWhile (!isSpace ·)

/-- What reading a token leaves, the byte behind the token first. -/
def afterToken (bytes : List UInt8) : List UInt8 :=
  (bytes.dropWhile isSpace).dropWhile (!isSpace ·)

/-- All that reading a line takes: the line, and with `consume` the line end behind it. -/
def throughLine (terminator : LineTerminator) (bytes : List UInt8) : List UInt8 :=
  line bytes ++
    match terminator with
    | .consume => (bytes.dropWhile (!isLineEnd ·)).take 1
    | .keep => []

/-- All that reading a token takes: the blanks before it, and the token. -/
def throughToken (bytes : List UInt8) : List UInt8 :=
  bytes.takeWhile isSpace ++ token bytes

theorem throughLine_append (terminator : LineTerminator) (bytes : List UInt8) :
    throughLine terminator bytes ++ afterLine terminator bytes = bytes := by
  cases terminator with
  | keep => rw [throughLine, List.append_nil, line, afterLine, List.takeWhile_append_dropWhile]
  | consume =>
      rw [throughLine, line, afterLine, List.append_assoc, ← List.drop_one, List.take_append_drop,
        List.takeWhile_append_dropWhile]

theorem throughToken_append (bytes : List UInt8) :
    throughToken bytes ++ afterToken bytes = bytes := by
  rw [throughToken, token, afterToken, List.append_assoc, List.takeWhile_append_dropWhile,
    List.takeWhile_append_dropWhile]

/-- What stands behind a line begins with a line end, if there is anything. -/
theorem head?_dropWhile (bytes : List UInt8) :
    (bytes.dropWhile (!isLineEnd ·)).head? = some 0x0A ∨ bytes.dropWhile (!isLineEnd ·) = [] := by
  cases behind : bytes.dropWhile (!isLineEnd ·) with
  | nil => exact .inr rfl
  | cons b rest =>
      have ends := List.head?_dropWhile_not (!isLineEnd ·) bytes
      rw [behind] at ends
      simp [isLineEnd] at ends
      exact .inl (by simp [ends])

end Reader

/-! ### Sinks -/

namespace Sink

/-- No call is refused. -/
def Healthy (sink : Sink) : Prop :=
  ∀ error, .refuse error ∉ sink.script

theorem flush_of_healthy {sink : Sink} (healthy : sink.Healthy) :
    ∃ flushed, sink.flush = (.ok (), flushed) ∧ flushed.Healthy := by
  unfold flush
  split
  · next error rest script => exact absurd (script ▸ List.mem_cons_self) (healthy error)
  · exact ⟨_, rfl, fun error refused => healthy error (List.mem_of_mem_tail refused)⟩

end Sink

/-! ### Consoles -/

namespace Console

open RootObject.Action

/-- The console has these settings, is going to read these bytes, and its sink refuses nothing. -/
structure Holds (settings : Settings) (capacity : Nat) (bytes : List UInt8) (console : Console) :
    Prop where
  settings : console.settings = settings
  stream : console.stream.Holds capacity bytes
  sink : console.sink.Healthy

variable {settings : Settings} {capacity : Nat} {bytes : List UInt8}

/-- A console over a source is going to read what the source holds. -/
theorem holds_ofSource {source : Source} {sink : Sink} (settings : Settings) (steady : source.Steady)
    (capacity : Nat) (healthy : sink.Healthy) :
    Holds settings (max capacity 1) source.data ⟨settings, Stream.ofSource source capacity, sink⟩ :=
  ⟨rfl, Stream.holds_ofSource steady capacity, healthy⟩

theorem lineOf_ends {stream : Stream} (terminator : LineTerminator)
    (holds : stream.Holds capacity bytes)
    (granted : Buffer.Granted capacity (Reader.line bytes).length) :
    Ends (lineOf terminator) stream (.returned (Utf8.decode (Reader.line bytes)))
      (Stream.Holds capacity (Reader.afterLine terminator bytes)) := by
  refine (Stream.readUntil_ends holds granted).bind fun rest holds => ?_
  cases terminator with
  | keep => exact .pure holds
  | consume =>
      refine ((Stream.peek_ends holds).mapError ReadError.io).bind fun rest holds => ?_
      rcases Reader.head?_dropWhile bytes with ends | none
      · simp only [ends]
        refine ((Stream.nextByte_ends holds).mapError ReadError.io).bind fun rest left => ?_
        exact .pure left.1
      · simp only [none, Reader.afterLine] at holds ⊢
        exact .pure holds

theorem tokenOf_ends {stream : Stream} (holds : stream.Holds capacity bytes)
    (granted : Buffer.Granted capacity (Reader.token bytes).length) :
    Ends tokenOf stream (.returned (Utf8.decode (Reader.token bytes)))
      (Stream.Holds capacity (Reader.afterToken bytes)) := by
  refine ((Stream.skipWhile_ends isSpace holds).mapError ReadError.io).bind fun rest holds => ?_
  exact Stream.readUntil_ends holds granted

variable {console : Console}

theorem onStream_ends {ε α : Type} {action : Action Stream ε α} {ending : Ending ε α}
    {left : List UInt8} (holds : console.Holds settings capacity bytes)
    (ends : Ends action console.stream ending (Stream.Holds capacity left)) :
    Ends (onStream action) console ending (Holds settings capacity left) :=
  ends.within fun _ stream => ⟨holds.settings, stream, holds.sink⟩

theorem flush_ends (holds : console.Holds settings capacity bytes) :
    Ends flush console (.returned ()) (Holds settings capacity bytes) := by
  obtain ⟨flushed, succeeds, healthy⟩ := Sink.flush_of_healthy holds.sink
  constructor
  · simp [flush, onSink, succeeds]
  · simp only [flush, onSink, succeeds]
    exact ⟨holds.settings, holds.stream, healthy⟩

theorem prepareInput_ends (holds : console.Holds settings capacity bytes) :
    Ends prepareInput console (.returned ()) (Holds settings capacity bytes) := by
  refine Ends.get.bind ?_
  rintro _ rfl
  split
  · exact (flush_ends holds).mapError ReadError.io
  · exact .pure holds

/-- A line is read as the sequential reader reads it. -/
theorem readLine_ends (holds : console.Holds settings capacity bytes)
    (granted : Buffer.Granted capacity (Reader.line bytes).length) :
    Ends readLine console (.returned (Utf8.decode (Reader.line bytes)))
      (Holds settings capacity (Reader.afterLine settings.lineTerminator bytes)) := by
  refine (prepareInput_ends holds).bind fun console holds => ?_
  refine Ends.get.bind ?_
  rintro _ rfl
  rw [holds.settings]
  refine (onStream_ends holds (lineOf_ends _ holds.stream granted)).bind fun console holds => ?_
  exact (Ends.emit holds).bind fun console holds => .pure holds

/-- A token is read as the sequential reader reads it. -/
theorem readToken_ends (holds : console.Holds settings capacity bytes)
    (granted : Buffer.Granted capacity (Reader.token bytes).length) :
    Ends readToken console (.returned (Utf8.decode (Reader.token bytes)))
      (Holds settings capacity (Reader.afterToken bytes)) := by
  refine (prepareInput_ends holds).bind fun console holds => ?_
  refine (onStream_ends holds (tokenOf_ends holds.stream granted)).bind fun console holds => ?_
  exact (Ends.emit holds).bind fun console holds => .pure holds

end Console

/-! ### The root class -/

namespace Base

open RootObject.Action

/-- What a method returns that reads a token as a literal. -/
def ofToken {α : Type} (method : Method) (expected : LiteralKind)
    (parse : String → Except LiteralError α) (token : String) : Ending Fault α :=
  match parse token with
  | .ok value => .returned value
  | .error error => .failed (Fault.ofLiteral method token expected error)

variable {settings : Console.Settings} {capacity : Nat} {bytes : List UInt8} {console : Console}

theorem inputLine_ends (holds : console.Holds settings capacity bytes)
    (granted : Buffer.Granted capacity (Reader.line bytes).length) :
    Ends inputLine console (.returned (Utf8.decode (Reader.line bytes)))
      (Console.Holds settings capacity (Reader.afterLine settings.lineTerminator bytes)) :=
  (Console.readLine_ends holds granted).mapError (Fault.ofRead .inputLine)

/-- A token that is read is then parsed, and what the reading left is left. -/
theorem inputLiteral_of_token {α : Type} (method : Method) (expected : LiteralKind)
    (parse : String → Except LiteralError α) (parsed : α → Log.Event) {token : String}
    {left : Console → Prop} (read : Ends Console.readToken console (.returned token) left) :
    Ends (inputLiteral method expected parse parsed) console (ofToken method expected parse token)
      left := by
  refine (read.mapError (Fault.ofRead method)).bind fun console now => ?_
  unfold ofToken
  cases parse token with
  | ok value => exact (Ends.emit now).bind fun console now => .pure now
  | error error => exact .fail now

/-- A token is read as the sequential reader reads it, whatever it is then parsed as. -/
theorem inputLiteral_ends {α : Type} (method : Method) (expected : LiteralKind)
    (parse : String → Except LiteralError α) (parsed : α → Log.Event)
    (holds : console.Holds settings capacity bytes)
    (granted : Buffer.Granted capacity (Reader.token bytes).length) :
    Ends (inputLiteral method expected parse parsed) console
      (ofToken method expected parse (Utf8.decode (Reader.token bytes)))
      (Console.Holds settings capacity (Reader.afterToken bytes)) :=
  inputLiteral_of_token method expected parse parsed (Console.readToken_ends holds granted)

end Base
end RootObject
