import RootObject.IoError

/-!
Sinks, as scripts of how their calls answer, with a record of what happened to them. A text is written
by `writeAll`: as many write calls as short answers and interruptions make necessary. A flush is one
call and is never made again.
-/

namespace RootObject

namespace Sink

/-- How a call answers. A flush takes any acceptance for success. -/
inductive Answer where
  /-- All of a write is accepted. -/
  | accept
  /-- At most so many bytes of a write are accepted. -/
  | acceptAtMost (count : Nat)
  | refuse (error : IoError)
  deriving DecidableEq, Repr

/-- What a call did. -/
inductive Entry where
  | written (bytes : List UInt8)
  | nothingWritten
  | writeFailed
  | flushed
  | flushFailed
  deriving DecidableEq, Repr

end Sink

structure Sink where
  /-- The answers to come; past the last of them all is accepted. -/
  script : List Sink.Answer
  /-- What the calls did, latest first. -/
  record : List Sink.Entry
  deriving DecidableEq, Repr

namespace Sink

/-- A sink that answers by a script and to which nothing has happened. -/
def scripted (script : List Answer) : Sink :=
  ⟨script, []⟩

/-- A sink that never fails. -/
def reliable : Sink :=
  scripted []

/-- Writes bytes to a sink with the given record and the given answers to come. -/
def deliver (bytes : List UInt8) (record : List Entry) : List Answer → Except IoError Unit × Sink
  | [] => (.ok (), ⟨[], if bytes.isEmpty then record else .written bytes :: record⟩)
  | answer :: rest =>
      if bytes.isEmpty then (.ok (), ⟨answer :: rest, record⟩)
      else match answer with
        | .accept => (.ok (), ⟨rest, .written bytes :: record⟩)
        | .acceptAtMost 0 => (.error .nothingAccepted, ⟨rest, .nothingWritten :: record⟩)
        | .acceptAtMost count =>
            deliver (bytes.drop count) (.written (bytes.take count) :: record) rest
        | .refuse error =>
            if error.isInterruption then deliver bytes (.writeFailed :: record) rest
            else (.error error, ⟨rest, .writeFailed :: record⟩)

/-- Writes all bytes: a short write is followed by another for the rest, an interrupted one is made
again, one that accepts nothing is an error. No bytes make no call. -/
def writeAll (bytes : List UInt8) (sink : Sink) : Except IoError Unit × Sink :=
  deliver bytes sink.record sink.script

def flush (sink : Sink) : Except IoError Unit × Sink :=
  match sink.script with
  | .refuse error :: rest => (.error error, ⟨rest, .flushFailed :: sink.record⟩)
  | script => (.ok (), ⟨script.tail, .flushed :: sink.record⟩)

/-- All bytes that the sink has accepted. -/
def accepted (sink : Sink) : List UInt8 :=
  sink.record.reverse.flatMap fun
    | .written bytes => bytes
    | _ => []

/-- A list of entries in which accepted writes that follow one another are one. -/
def joined : List Entry → List Entry
  | .written first :: rest =>
      match joined rest with
      | .written second :: rest => .written (first ++ second) :: rest
      | rest => .written first :: rest
  | entry :: rest => entry :: joined rest
  | [] => []

/-- What happened to the sink, earliest first, with neighbouring writes joined. -/
def transcript (sink : Sink) : List Entry :=
  joined sink.record.reverse

/-- The sink with an empty record. -/
def cleared (sink : Sink) : Sink :=
  { sink with record := [] }

end Sink
end RootObject
