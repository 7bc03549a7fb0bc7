import RootObject.Log.Event

/-!
The buffer that gathers the bytes of one piece of text. It starts at a given capacity and doubles when
it is full and another byte is to be stored. Memory is modelled by a limit: a request for `limit`
bytes or more is refused, every smaller one is granted.
-/

namespace RootObject

structure Buffer where
  bytes : Array UInt8
  capacity : Nat
  deriving DecidableEq, Repr

namespace Buffer

/-- The least number of bytes that is never granted. -/
def limit : Nat :=
  0x4000000000000000

/-- The largest number that a request can name. -/
def maxRequest : Nat :=
  0xFFFFFFFFFFFFFFFF

/-- An empty buffer, if so many bytes are granted. -/
def reserve? (capacity : Nat) : Option Buffer :=
  if capacity < limit then some ⟨#[], capacity⟩ else none

/-- The buffer with twice its capacity. A refusal tells how many bytes were asked for. -/
def grow (buffer : Buffer) : Except ReadError Buffer :=
  let requested := 2 * buffer.capacity
  if requested > maxRequest then .error (.exhausted maxRequest)
  else if requested < limit then .ok { buffer with capacity := requested }
  else .error (.exhausted requested)

/-- The buffer with one more byte, and what its growth logs. -/
def push (buffer : Buffer) (byte : UInt8) : Except ReadError (Buffer × List Log.Event) :=
  if buffer.bytes.size = buffer.capacity then
    buffer.grow.map fun grown =>
      ({ grown with bytes := grown.bytes.push byte }, [.bufferGrown buffer.capacity grown.capacity])
  else
    .ok ({ buffer with bytes := buffer.bytes.push byte }, [])

end Buffer
end RootObject
