import RootObject.Proofs.Action
import RootObject.Proofs.Input.Rounds

/-!
Streams against plain lists of bytes. A stream that no failure awaits is told by the bytes that remain
(`Stream.Holds`): each operation does to the stream what it does to the list, whatever the source is
cut into, wherever reads of it are interrupted, and whether or not a byte is pushed back.
-/

namespace RootObject

namespace Stream

open RootObject.Action

/-- The stream is going to deliver these bytes and nothing else, and its buffers start at this
capacity. -/
structure Holds (capacity : Nat) (bytes : List UInt8) (stream : Stream) : Prop where
  arrivals : stream.arrivals = Arrival.ofBytes bytes
  capacity : stream.capacity = capacity

variable {stream : Stream} {capacity : Nat} {bytes : List UInt8}

theorem Holds.remaining (holds : Holds capacity bytes stream) : stream.remaining = bytes := by
  rw [remaining_eq, holds.arrivals, Arrival.filterMap_ofBytes]

theorem holds_ofSource {source : Source} (steady : source.Steady) (capacity : Nat) :
    Holds (max capacity 1) source.data (ofSource source capacity) :=
  ⟨steady.arrivals_eq, rfl⟩

theorem Scans.ends {ε α : Type} {action : Action Stream ε α} {wanted : UInt8 → Bool}
    {tell : IoError → ε} {value : α} (holds : Holds capacity bytes stream)
    (scans : Scans wanted tell value stream (action stream)) :
    Ends action stream (.returned value) (Holds capacity (bytes.dropWhile wanted)) := by
  obtain ⟨ending, arrivals, kept⟩ := scans
  rw [holds.arrivals, Arrival.afterRun_ofBytes, Arrival.halt_ofBytes] at ending arrivals
  exact ⟨ending, arrivals, kept.trans holds.capacity⟩

theorem nextByte_ends (holds : Holds capacity bytes stream) :
    Ends nextByte stream (.returned bytes.head?) fun rest =>
      Holds capacity bytes.tail rest ∧ rest.pushedBack = none := by
  have first := stream.arrivals_nextByte
  rw [holds.arrivals, Arrival.next_ofBytes] at first
  obtain ⟨ending, arrivals⟩ := Prod.mk.inj first
  exact ⟨ending.symm, ⟨arrivals.symm, (capacity_nextByte stream).trans holds.capacity⟩,
    pushedBack_nextByte stream⟩

theorem unread_ends (holds : Holds capacity bytes stream) (unpushed : stream.pushedBack = none)
    (b : UInt8) : Ends (unread b) stream (.returned ()) (Holds capacity (b :: bytes)) := by
  refine ⟨rfl, ?_, holds.capacity⟩
  change (stream.withPushedBack b).arrivals = _
  rw [arrivals_withPushedBack unpushed, holds.arrivals]
  rfl

theorem peek_ends (holds : Holds capacity bytes stream) :
    Ends peek stream (.returned bytes.head?) (Holds capacity bytes) := by
  refine (nextByte_ends holds).bind fun rest ⟨holds, unpushed⟩ => ?_
  cases bytes with
  | nil => exact .pure holds
  | cons b bytes => exact (unread_ends holds unpushed b).bind fun _ holds => .pure holds

theorem readUntil_ends {stop : UInt8 → Bool} (holds : Holds capacity bytes stream)
    (granted : Buffer.Granted capacity (bytes.takeWhile (!stop ·)).length) :
    Ends (readUntil stop) stream (.returned (Utf8.decode (bytes.takeWhile (!stop ·))))
      (Holds capacity (bytes.dropWhile (!stop ·))) := by
  rw [← Arrival.run_ofBytes, ← holds.arrivals] at granted ⊢
  exact Scans.ends holds (readUntil_spec stop stream (holds.capacity ▸ granted))

theorem skipWhile_ends (unwanted : UInt8 → Bool) (holds : Holds capacity bytes stream) :
    Ends (skipWhile unwanted) stream (.returned (bytes.takeWhile unwanted).length)
      (Holds capacity (bytes.dropWhile unwanted)) := by
  rw [← Arrival.run_ofBytes, ← holds.arrivals]
  exact Scans.ends holds (skipWhile_spec unwanted stream)

end Stream
end RootObject
