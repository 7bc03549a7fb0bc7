import RootObject.Action
import RootObject.Input.Buffer
import RootObject.Input.Source
import RootObject.Text.Utf8

/-!
Byte streams: a source with one byte of pushback. Two scans serve all readers above: `readUntil` gathers
the bytes before the first that it stops at, and `skipWhile` drops a run of bytes; both push the byte
that ended them back. Once a read has brought nothing the source is not read again.
-/

namespace RootObject

structure Stream where
  source : Source
  pushedBack : Option UInt8
  /-- Whether a read has brought nothing. -/
  atEnd : Bool
  /-- The first capacity of every buffer. -/
  capacity : Nat
  capacity_pos : 0 < capacity
  deriving DecidableEq, Repr

namespace Stream

/-- A stream over a source. No capacity counts as one byte. -/
def ofSource (source : Source) (capacity : Nat) : Stream :=
  { source, pushedBack := none, atEnd := false, capacity := max capacity 1, capacity_pos := by omega }

/-- How many bytes the stream can still deliver at most. -/
def size (stream : Stream) : Nat :=
  stream.pushedBack.toList.length + stream.source.size

/-- The next byte: the one pushed back, or one read of the source; none at the end. -/
def nextByte : Action Stream IoError (Option UInt8) := fun stream =>
  match stream.pushedBack with
  | some byte => ⟨.returned (some byte), { stream with pushedBack := none }, []⟩
  | none =>
      if stream.atEnd then ⟨.returned none, stream, []⟩
      else
        let rest := { stream with source := stream.source.read.2 }
        match stream.source.read.1 with
        | .byte byte => ⟨.returned (some byte), rest, []⟩
        | .nothing => ⟨.returned none, { rest with atEnd := true }, [.endOfStream]⟩
        | .failure error => ⟨.failed error, rest, []⟩
        | .abortion message => ⟨.aborted message, rest, []⟩

/-- The stream with a byte to be delivered next. -/
def withPushedBack (stream : Stream) (byte : UInt8) : Stream :=
  { stream with pushedBack := some byte }

/-- Takes a byte back, to be delivered next. -/
def unread (byte : UInt8) : Action Stream IoError Unit := fun stream =>
  ⟨.returned (), stream.withPushedBack byte, []⟩

/-- The next byte, which stays where it is. -/
def peek : Action Stream IoError (Option UInt8) := do
  let next ← nextByte
  if let some byte := next then
    unread byte
  return next

/-- A byte that is delivered is gone. -/
theorem size_nextByte {stream rest : Stream} {byte : UInt8} {events : List Log.Event}
    (delivered : nextByte stream = ⟨.returned (some byte), rest, events⟩) :
    rest.size < stream.size := by
  unfold nextByte at delivered
  split at delivered
  · rename_i pushed
    cases delivered
    simp [size, pushed]
  · rename_i pushed
    split at delivered
    · cases delivered
    · split at delivered <;> cases delivered
      rename_i brought
      have := stream.source.size_read _ brought
      simp only [size, pushed]
      simp
      omega

/-- Gathers bytes behind those in the buffer, up to the first to stop at, which is pushed back, or to
the end; with the events logged so far in hand. -/
def gather (stop : UInt8 → Bool) (buffer : Buffer) (logged : List Log.Event) (stream : Stream) :
    Outcome Stream ReadError Buffer :=
  match _ : nextByte stream with
  | ⟨.aborted message, rest, events⟩ => ⟨.aborted message, rest, logged ++ events⟩
  | ⟨.failed error, rest, events⟩ => ⟨.failed (.io error), rest, logged ++ events⟩
  | ⟨.returned none, rest, events⟩ => ⟨.returned buffer, rest, logged ++ events⟩
  | ⟨.returned (some byte), rest, events⟩ =>
      if stop byte then ⟨.returned buffer, rest.withPushedBack byte, logged ++ events⟩
      else
        match buffer.push byte with
        | .error error => ⟨.failed error, rest, logged ++ events⟩
        | .ok (buffer, grown) => gather stop buffer (logged ++ events ++ grown) rest
  termination_by stream.size
  decreasing_by exact size_nextByte ‹_›

/-- The text before the first byte to stop at, or before the end. The buffer is reserved before
anything is read. -/
def readUntil (stop : UInt8 → Bool) : Action Stream ReadError String := fun stream =>
  match Buffer.reserve? stream.capacity with
  | none => ⟨.failed (.exhausted stream.capacity), stream, []⟩
  | some buffer =>
      (gather stop buffer [] stream).map fun buffer => Utf8.decode buffer.bytes.toList

/-- Drops bytes as long as they are unwanted, counting on from `count`. -/
def skip (unwanted : UInt8 → Bool) (count : Nat) (logged : List Log.Event) (stream : Stream) :
    Outcome Stream IoError Nat :=
  match _ : nextByte stream with
  | ⟨.aborted message, rest, events⟩ => ⟨.aborted message, rest, logged ++ events⟩
  | ⟨.failed error, rest, events⟩ => ⟨.failed error, rest, logged ++ events⟩
  | ⟨.returned none, rest, events⟩ => ⟨.returned count, rest, logged ++ events⟩
  | ⟨.returned (some byte), rest, events⟩ =>
      if unwanted byte then skip unwanted (count + 1) (logged ++ events) rest
      else ⟨.returned count, rest.withPushedBack byte, logged ++ events⟩
  termination_by stream.size
  decreasing_by exact size_nextByte ‹_›

/-- Drops the longest run of unwanted bytes and tells its length. -/
def skipWhile (unwanted : UInt8 → Bool) : Action Stream IoError Nat :=
  skip unwanted 0 []

end Stream

/-- The six blanks of the C locale: space, tab, line end, vertical tab, form feed, return. -/
def isSpace (byte : UInt8) : Bool :=
  byte = 0x20 || (0x09 ≤ byte && byte ≤ 0x0D)

/-- The byte that ends a line. -/
def isLineEnd (byte : UInt8) : Bool :=
  byte = 0x0A

end RootObject
