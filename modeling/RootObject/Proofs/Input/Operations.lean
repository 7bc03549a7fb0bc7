import RootObject.Proofs.Input.Bytes

/-!
Sequences of stream operations against the machine whose only state is the list of bytes that remain.
A stream that no failure awaits answers as this machine does, operation by operation, and holds what
the machine holds in between (`run_eq`).
-/

namespace RootObject

/-- What may be done with a stream. -/
inductive Operation where
  | nextByte
  | peek
  | unread (b : UInt8)
  | readUntil (stop : UInt8 → Bool)
  | skipWhile (unwanted : UInt8 → Bool)

namespace Operation

/-- What an operation brings. -/
inductive Reply where
  | byte (next : Option UInt8)
  | done
  | text (text : String)
  | count (n : Nat)
  deriving DecidableEq

/-- The operation on a stream. -/
def onStream : Operation → Action Stream ReadError Reply
  | .nextByte => do return .byte (← Stream.nextByte.mapError .io)
  | .peek => do return .byte (← Stream.peek.mapError .io)
  | .unread b => do
      (Stream.unread b).mapError .io
      return .done
  | .readUntil stop => do return .text (← Stream.readUntil stop)
  | .skipWhile unwanted => do return .count (← (Stream.skipWhile unwanted).mapError .io)

/-- The operation on the list of the bytes that remain. -/
def onBytes : Operation → List UInt8 → Reply × List UInt8
  | .nextByte, bytes => (.byte bytes.head?, bytes.tail)
  | .peek, bytes => (.byte bytes.head?, bytes)
  | .unread b, bytes => (.done, b :: bytes)
  | .readUntil stop, bytes =>
      (.text (Utf8.decode (bytes.takeWhile (!stop ·))), bytes.dropWhile (!stop ·))
  | .skipWhile unwanted, bytes =>
      (.count (bytes.takeWhile unwanted).length, bytes.dropWhile unwanted)

/-- A byte is only taken back where none is, and no request for a buffer reaches the limit. -/
def Allowed (stream : Stream) : Operation → Prop
  | .unread _ => stream.pushedBack = none
  | .readUntil stop =>
      Buffer.Granted stream.capacity (stream.remaining.takeWhile (!stop ·)).length
  | _ => True

/-- The outcomes of operations one after another. -/
def run : List Operation → Stream → List (Outcome Stream ReadError Reply)
  | [], _ => []
  | operation :: rest, stream =>
      operation.onStream stream :: run rest (operation.onStream stream).state

/-- What each of the operations brings from the list of bytes, and what it leaves of it. -/
def runBytes : List Operation → List UInt8 → List (Reply × List UInt8)
  | [], _ => []
  | operation :: rest, bytes => operation.onBytes bytes :: runBytes rest (operation.onBytes bytes).2

/-- Every operation is allowed when its turn comes. -/
def AllAllowed : List Operation → Stream → Prop
  | [], _ => True
  | operation :: rest, stream =>
      operation.Allowed stream ∧ AllAllowed rest (operation.onStream stream).state

variable {stream : Stream} {capacity : Nat} {bytes : List UInt8}

/-- One operation does to the stream what it does to the bytes that remain. -/
theorem onStream_ends {operation : Operation} (holds : stream.Holds capacity bytes)
    (allowed : operation.Allowed stream) :
    Action.Ends operation.onStream stream (.returned (operation.onBytes bytes).1)
      (Stream.Holds capacity (operation.onBytes bytes).2) := by
  cases operation with
  | nextByte =>
      exact ((Stream.nextByte_ends holds).mapError ReadError.io).bind fun _ left => .pure left.1
  | peek => exact ((Stream.peek_ends holds).mapError ReadError.io).bind fun _ left => .pure left
  | unread b =>
      exact ((Stream.unread_ends holds allowed b).mapError ReadError.io).bind fun _ left => .pure left
  | readUntil stop =>
      unfold Allowed at allowed
      rw [holds.remaining, holds.capacity] at allowed
      exact (Stream.readUntil_ends holds allowed).bind fun _ left => .pure left
  | skipWhile unwanted =>
      exact ((Stream.skipWhile_ends unwanted holds).mapError ReadError.io).bind fun _ left => .pure left

theorem run_eq {operations : List Operation} (holds : stream.Holds capacity bytes)
    (allowed : AllAllowed operations stream) :
    (run operations stream).map (fun outcome => (outcome.ending, outcome.state.remaining)) =
      (runBytes operations bytes).map fun (reply, left) => (.returned reply, left) := by
  induction operations generalizing stream bytes with
  | nil => rfl
  | cons operation rest ih =>
      obtain ⟨now, later⟩ := allowed
      obtain ⟨ending, left⟩ := onStream_ends holds now
      simp only [run, runBytes, List.map_cons, ending, left.remaining, ih left later]

/-- Over a source that no failure awaits a stream is the list of the bytes that remain: at the start
the data up to the first read that brings nothing, later the byte pushed back and the data not yet
read. Every sequence of operations brings what it brings from that list. -/
theorem run_ofSource (source : Source) (capacity : Nat) (operations : List Operation)
    (steady : source.Steady) (allowed : AllAllowed operations (Stream.ofSource source capacity)) :
    (run operations (Stream.ofSource source capacity)).map
        (fun outcome => (outcome.ending, outcome.state.remaining)) =
      (runBytes operations source.data).map fun (reply, left) => (.returned reply, left) :=
  run_eq (Stream.holds_ofSource steady capacity) allowed

/-- A word and a blank, a byte put before what follows, and the rest up to the end of the data, which
stands before the last piece. -/
theorem run_ofSource_interrupted :
    (run
        [.readUntil isSpace, .skipWhile isSpace, .peek, .nextByte, .nextByte, .unread 0x21,
          .readUntil fun _ => false]
        (Stream.ofSource
          [.data [0x61, 0x62], .failure ⟨.interrupted, none⟩, .data [0x20, 0x63, 0x64, 0xC3], .nothing,
            .data [0x7A]] 0)).map
        (fun outcome => (outcome.ending, outcome.state.remaining)) =
      [(.returned (.text "ab"), [0x20, 0x63, 0x64, 0xC3]), (.returned (.count 1), [0x63, 0x64, 0xC3]),
        (.returned (.byte (some 0x63)), [0x63, 0x64, 0xC3]),
        (.returned (.byte (some 0x63)), [0x64, 0xC3]), (.returned (.byte (some 0x64)), [0xC3]),
        (.returned .done, [0x21, 0xC3]), (.returned (.text "!\uFFFD"), [])] := by
  refine (run_ofSource _ _ _ ?steady ?allowed).trans (by decide +kernel)
  case steady => exact ⟨rfl, trivial⟩
  case allowed =>
      refine ⟨Buffer.granted_of_lt ?_ ?_, trivial, trivial, trivial, trivial,
        Option.isNone_iff_eq_none.mp ?_, Buffer.granted_of_lt ?_ ?_, trivial⟩
      all_goals decide +kernel

end Operation
end RootObject
