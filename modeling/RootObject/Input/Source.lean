import RootObject.IoError

/-!
Sources of bytes, as scripts of what their reads bring. A read brings one byte, or nothing at the end,
or fails, or gives up. An interrupted read is made again, so interruptions are never seen outside.
-/

namespace RootObject

/-- A piece of a source: a stretch of data, read byte by byte, or one read of another kind. -/
inductive Feed where
  | data (bytes : List UInt8)
  | failure (error : IoError)
  /-- One read that brings nothing. -/
  | nothing
  /-- One read that does not return. -/
  | abortion (message : String)
  deriving DecidableEq, Repr

/-- What is still to be read. Past its last piece every read brings nothing. -/
abbrev Source :=
  List Feed

/-- What a read brought. -/
inductive Reading where
  | byte (byte : UInt8)
  | nothing
  | failure (error : IoError)
  | abortion (message : String)
  deriving DecidableEq, Repr

namespace Source

/-- A source of plain data. -/
def ofBytes (bytes : List UInt8) : Source :=
  [.data bytes]

/-- The next read that is not interrupted, and what is to be read after it. -/
def read : Source → Reading × Source
  | [] => (.nothing, [])
  | .data [] :: rest => read rest
  | .data (byte :: bytes) :: rest => (.byte byte, .data bytes :: rest)
  | .failure error :: rest => if error.isInterruption then read rest else (.failure error, rest)
  | .nothing :: rest => (.nothing, rest)
  | .abortion message :: rest => (.abortion message, rest)

/-- The number of data bytes in all pieces. -/
def size : Source → Nat
  | [] => 0
  | .data bytes :: rest => bytes.length + size rest
  | _ :: rest => size rest

/-- A read that brings a byte leaves one byte less. -/
theorem size_read (source : Source) (byte : UInt8) (brought : source.read.1 = .byte byte) :
    source.read.2.size + 1 = source.size := by
  fun_induction read source <;> simp_all [size]
  omega

end Source
end RootObject
