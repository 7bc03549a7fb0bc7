import Mathlib.Logic.Relation
import RootObject.Proofs.Input.Growth
import RootObject.Proofs.Input.Scans

/-!
The loop of `gather`, round by round, as a relation between the places where it may stand (`Gathering`).
Each round stores one byte (`Gathering.Stores`), up to the last, which stores none: it closes the read
(`Gathering.Closes`), or memory is refused to it (`Gathering.Refuses`). Every read comes to its last round
(`Gathering.exists_last`), so whatever is to be known of gathering is asked of one round of each kind, and
carried along those that store.
-/

namespace RootObject

namespace Stream

/-- Where the loop stands: what it has stored and logged, and what it goes on reading. -/
structure Gathering where
  buffer : Buffer
  logged : List Log.Event
  stream : Stream

namespace Gathering

variable {stop : UInt8 → Bool} {held next last : Gathering} {outcome : Outcome Stream ReadError Buffer}

/-- Before the first round. -/
def start (stream : Stream) : Gathering :=
  ⟨⟨#[], stream.capacity⟩, [], stream⟩

/-- What becomes of the read from here on. -/
def finish (stop : UInt8 → Bool) (held : Gathering) : Outcome Stream ReadError Buffer :=
  gather stop held.buffer held.logged held.stream

/-- A round that stores the next byte. -/
inductive Stores (stop : UInt8 → Bool) (held : Gathering) : Gathering → Prop where
  | byte {b : UInt8} {rest : Stream} {events grown : List Log.Event} {buffer : Buffer}
      (delivered : nextByte held.stream = ⟨.returned (some b), rest, events⟩)
      (passed : stop b = false) (stored : held.buffer.push b = .ok (buffer, grown)) :
      Stores stop held ⟨buffer, held.logged ++ events ++ grown, rest⟩

/-- A round that stores nothing, with the outcome of the read. The buffer is returned as it is, and all
that may be logged is the end. -/
inductive Closes (stop : UInt8 → Bool) (held : Gathering) :
    Outcome Stream ReadError Buffer → Prop where
  | stopped {b : UInt8} {rest : Stream}
      (delivered : nextByte held.stream = ⟨.returned (some b), rest, []⟩) (stops : stop b = true) :
      Closes stop held ⟨.returned held.buffer, rest.withPushedBack b, held.logged⟩
  | ended {rest : Stream} {events : List Log.Event}
      (delivered : nextByte held.stream = ⟨.returned none, rest, events⟩)
      (once : events = if held.stream.atEnd = false then [.endOfStream] else []) :
      Closes stop held ⟨.returned held.buffer, rest, held.logged ++ events⟩
  | failed {error : IoError} {rest : Stream}
      (delivered : nextByte held.stream = ⟨.failed error, rest, []⟩) :
      Closes stop held ⟨.failed (.io error), rest, held.logged⟩
  | aborted {message : String} {rest : Stream}
      (delivered : nextByte held.stream = ⟨.aborted message, rest, []⟩) :
      Closes stop held ⟨.aborted message, rest, held.logged⟩

/-- A round that takes the next byte, and memory is refused for it. -/
inductive Refuses (stop : UInt8 → Bool) (held : Gathering) :
    Outcome Stream ReadError Buffer → Prop where
  | byte {b : UInt8} {rest : Stream} {error : ReadError}
      (delivered : nextByte held.stream = ⟨.returned (some b), rest, []⟩)
      (passed : stop b = false) (refused : held.buffer.push b = .error error) :
      Refuses stop held ⟨.failed error, rest, held.logged⟩

/-- The read comes to a round that stores nothing, and ends as that round does. -/
theorem exists_last (stop : UInt8 → Bool) (held : Gathering) :
    ∃ last, Relation.ReflTransGen (Stores stop) held last ∧
      (last.Closes stop (held.finish stop) ∨ last.Refuses stop (held.finish stop)) := by
  obtain ⟨buffer, logged, stream⟩ := held
  unfold finish
  fun_induction gather stop buffer logged stream with
  | case1 buffer logged stream message rest events delivered =>
      obtain rfl := silent_of_nextByte delivered (by simp)
      rw [List.append_nil]
      exact ⟨_, .refl, .inl (.aborted delivered)⟩
  | case2 buffer logged stream error rest events delivered =>
      obtain rfl := silent_of_nextByte delivered (by simp)
      rw [List.append_nil]
      exact ⟨_, .refl, .inl (.failed delivered)⟩
  | case3 buffer logged stream rest events delivered =>
      exact ⟨_, .refl, .inl (.ended delivered (by simpa using events_of_nextByte delivered))⟩
  | case4 buffer logged stream b rest events delivered stops =>
      obtain rfl := silent_of_nextByte delivered (by simp)
      rw [List.append_nil]
      exact ⟨_, .refl, .inl (.stopped delivered stops)⟩
  | case5 buffer logged stream b rest events delivered passed error refused =>
      obtain rfl := silent_of_nextByte delivered (by simp)
      rw [List.append_nil]
      exact ⟨_, .refl, .inr (.byte delivered (by simpa using passed) refused)⟩
  | case6 buffer logged stream b rest events delivered passed larger grown stored ih =>
      obtain ⟨last, rounds, ends⟩ := ih
      exact ⟨last, .head (.byte delivered (by simpa using passed) stored) rounds, ends⟩

/-- The read goes on from where a round has left it. -/
theorem Stores.finish_eq (stores : Stores stop held next) : held.finish stop = next.finish stop := by
  cases stores with
  | byte delivered passed stored =>
      unfold finish
      fun_cases gather stop held.buffer held.logged held.stream <;> simp_all

theorem finish_of_rounds (rounds : Relation.ReflTransGen (Stores stop) held next) :
    held.finish stop = next.finish stop := by
  induction rounds with
  | refl => rfl
  | tail _ stores ih => exact ih.trans stores.finish_eq

/-! ### The bytes stored -/

/-- The rounds that store pass the bytes that they put behind those in the buffer. -/
theorem passes_of_rounds (rounds : Relation.ReflTransGen (Stores stop) held last) :
    ∃ bytes, Passes (!stop ·) held.stream bytes last.stream ∧
      last.buffer.bytes.toList = held.buffer.bytes.toList ++ bytes := by
  induction rounds using Relation.ReflTransGen.head_induction_on with
  | refl => exact ⟨[], .refl _ _, (List.append_nil _).symm⟩
  | head stores _ ih =>
      obtain ⟨bytes, passes, behind⟩ := ih
      cases stores with
      | @byte b rest events grown buffer delivered passed stored =>
          refine ⟨b :: bytes, passes.cons delivered (by simp [passed]), ?_⟩
          simp [behind, Buffer.bytes_of_push stored]

/-- The round that closes a read is where its scan is over. -/
theorem Closes.concludes (closes : held.Closes stop outcome) :
    Concludes (!stop ·) ReadError.io held.buffer held.logged held.stream outcome := by
  cases closes with
  | stopped delivered stops => exact .stopped delivered (by simp [stops])
  | ended delivered once => exact .ended delivered
  | failed delivered => exact .failed delivered
  | aborted delivered => exact .aborted delivered

/-- What has been stored when a read is closed are the bytes before the first to stop at. -/
theorem Closes.spec (rounds : Relation.ReflTransGen (Stores stop) held last)
    (closes : last.Closes stop outcome) :
    last.buffer.bytes.toList =
      held.buffer.bytes.toList ++ Arrival.run (!stop ·) held.stream.arrivals ∧
    Scans (!stop ·) ReadError.io last.buffer held.stream outcome := by
  obtain ⟨bytes, passes, behind⟩ := passes_of_rounds rounds
  refine ⟨?_, passes.scans closes.concludes.scans⟩
  rw [behind, passes.run_eq, closes.concludes.run_eq, List.append_nil]

/-- What has been stored when memory is refused is lost, and so is the byte that it was refused for. -/
theorem Refuses.spec (rounds : Relation.ReflTransGen (Stores stop) held last)
    (refuses : last.Refuses stop outcome) :
    ∃ segment requested, segment.all (!stop ·) = true ∧
      outcome.ending = .failed (.exhausted requested) ∧
      held.stream.arrivals = Arrival.ofBytes segment ++ outcome.state.arrivals := by
  obtain ⟨bytes, passes, -⟩ := passes_of_rounds rounds
  cases refuses with
  | @byte b rest error delivered passed refused =>
      obtain ⟨requested, rfl⟩ := Buffer.exhausted_of_push refused
      refine ⟨bytes ++ [b], requested, ?_, rfl, ?_⟩
      · simpa [passed] using passes.wanted
      · rw [passes.arrivals, arrivals_of_nextByte delivered]
        simp [Arrival.ofBytes]

/-! ### The memory asked for -/

/-- How many bytes the buffer is to hold in the end. -/
def total (stop : UInt8 → Bool) (held : Gathering) : Nat :=
  held.buffer.bytes.size + (Arrival.run (!stop ·) held.stream.arrivals).length

theorem Stores.total_eq (stores : held.Stores stop next) : next.total stop = held.total stop := by
  cases stores with
  | byte delivered passed stored =>
      simp only [total, arrivals_of_nextByte delivered, Arrival.run_byte, passed,
        Buffer.bytes_of_push stored, Array.size_push]
      simp
      omega

/-- A byte that is taken is one of those that the buffer is to hold. -/
theorem size_lt_total {b : UInt8} {rest : Stream} {events : List Log.Event}
    (delivered : nextByte held.stream = ⟨.returned (some b), rest, events⟩) (passed : stop b = false) :
    held.buffer.bytes.size < held.total stop := by
  simp [total, arrivals_of_nextByte delivered, passed]

theorem Stores.granted (stores : held.Stores stop next)
    (granted : Buffer.Granted held.buffer.capacity (held.total stop)) :
    Buffer.Granted next.buffer.capacity (next.total stop) := by
  rw [stores.total_eq]
  cases stores with
  | byte delivered passed stored =>
      obtain ⟨_, _, stored', -, onward⟩ :=
        Buffer.push_of_granted granted (size_lt_total delivered passed) _
      cases stored.symm.trans stored'
      exact onward

theorem Refuses.not_granted (refuses : held.Refuses stop outcome) :
    ¬ Buffer.Granted held.buffer.capacity (held.total stop) := by
  intro granted
  cases refuses with
  | byte delivered passed refused =>
      obtain ⟨_, _, stored, -⟩ := Buffer.push_of_granted granted (size_lt_total delivered passed) _
      cases refused.symm.trans stored

theorem granted_of_rounds (rounds : Relation.ReflTransGen (Stores stop) held last)
    (granted : Buffer.Granted held.buffer.capacity (held.total stop)) :
    Buffer.Granted last.buffer.capacity (last.total stop) := by
  induction rounds with
  | refl => exact granted
  | tail _ stores ih => exact stores.granted ih

/-- Where no request is refused, the last round closes the read. -/
theorem exists_closes (held : Gathering)
    (granted : Buffer.Granted held.buffer.capacity (held.total stop)) :
    ∃ last, Relation.ReflTransGen (Stores stop) held last ∧ last.Closes stop (held.finish stop) := by
  obtain ⟨last, rounds, closes | refuses⟩ := exists_last stop held
  · exact ⟨last, rounds, closes⟩
  · exact absurd (granted_of_rounds rounds granted) refuses.not_granted

end Gathering

/-! ### What is read -/

/-- Gathering takes the bytes before the first to stop at. -/
theorem gather_spec (stop : UInt8 → Bool) (buffer : Buffer) (logged : List Log.Event)
    (stream : Stream)
    (granted : Buffer.Granted buffer.capacity
      (buffer.bytes.size + (Arrival.run (!stop ·) stream.arrivals).length)) :
    ∃ final : Buffer,
      final.bytes.toList = buffer.bytes.toList ++ Arrival.run (!stop ·) stream.arrivals ∧
      Scans (!stop ·) ReadError.io final stream (gather stop buffer logged stream) := by
  obtain ⟨last, rounds, closes⟩ := Gathering.exists_closes ⟨buffer, logged, stream⟩ granted
  exact ⟨last.buffer, closes.spec rounds⟩

/-- Reading up to a byte gathers from the start, unless the first capacity is refused. -/
theorem readUntil_cases (stop : UInt8 → Bool) (stream : Stream) :
    readUntil stop stream = ⟨.failed (.exhausted stream.capacity), stream, []⟩ ∨
      readUntil stop stream = (gather stop ⟨#[], stream.capacity⟩ [] stream).map fun buffer =>
        Utf8.decode buffer.bytes.toList := by
  unfold readUntil
  by_cases small : stream.capacity < Buffer.limit
  · rw [Buffer.reserve?_of_lt small]
    exact .inr rfl
  · rw [Buffer.reserve?, if_neg small]
    exact .inl rfl

/-- The text before the first byte to stop at is read, where the buffer for it is granted. -/
theorem readUntil_spec (stop : UInt8 → Bool) (stream : Stream)
    (granted : Buffer.Granted stream.capacity (Arrival.run (!stop ·) stream.arrivals).length) :
    Scans (!stop ·) ReadError.io (Utf8.decode (Arrival.run (!stop ·) stream.arrivals)) stream
      (readUntil stop stream) := by
  unfold readUntil
  rw [Buffer.reserve?_of_lt granted.capacity_lt]
  obtain ⟨final, gathered, scans⟩ := gather_spec stop ⟨#[], stream.capacity⟩ [] stream (by simpa)
  simp only [List.nil_append] at gathered
  rw [← gathered]
  exact scans.map fun buffer => Utf8.decode buffer.bytes.toList

end Stream
end RootObject
