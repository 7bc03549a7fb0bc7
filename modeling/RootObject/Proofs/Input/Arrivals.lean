import RootObject.Input.Stream

/-!
Streams as the lists of what they are still going to bring. `arrivals` forgets how the source is cut
into pieces, which reads are interrupted, and whether a byte comes from the source or was pushed back.
What delivering the next byte ends in, and what is to come after it, is told by the arrivals alone
(`arrivals_nextByte`).
-/

namespace RootObject

/-- What one delivery of a stream brings; past the last there is nothing. -/
inductive Arrival where
  | byte (b : UInt8)
  | failure (error : IoError)
  | abortion (message : String)
  deriving DecidableEq, Repr

namespace Arrival

/-- Whether the arrival is one of the wanted bytes. -/
def isByteOf (wanted : UInt8 → Bool) : Arrival → Bool
  | .byte b => wanted b
  | _ => false

def byte? : Arrival → Option UInt8
  | .byte b => some b
  | _ => none

/-- The first arrival as it is delivered, and what comes after it. -/
def next : List Arrival → Ending IoError (Option UInt8) × List Arrival
  | [] => (.returned none, [])
  | .byte b :: rest => (.returned (some b), rest)
  | .failure error :: rest => (.failed error, rest)
  | .abortion message :: rest => (.aborted message, rest)

/-- The wanted bytes at the front. -/
def run (wanted : UInt8 → Bool) (arrivals : List Arrival) : List UInt8 :=
  (arrivals.takeWhile (isByteOf wanted)).filterMap byte?

/-- What comes after the wanted bytes at the front. -/
def afterRun (wanted : UInt8 → Bool) (arrivals : List Arrival) : List Arrival :=
  arrivals.dropWhile (isByteOf wanted)

/-- How a scan ends at what it does not want: a byte stays where it is, a failure is gone. -/
def halt : List Arrival → Ending IoError Unit × List Arrival
  | .failure error :: rest => (.failed error, rest)
  | .abortion message :: rest => (.aborted message, rest)
  | rest => (.returned (), rest)

@[simp]
theorem run_nil (wanted : UInt8 → Bool) : run wanted [] = [] := rfl

@[simp]
theorem run_byte (wanted : UInt8 → Bool) (b : UInt8) (rest : List Arrival) :
    run wanted (.byte b :: rest) = if wanted b then b :: run wanted rest else [] := by
  by_cases w : wanted b <;> simp [run, isByteOf, byte?, w]

@[simp]
theorem run_failure (wanted : UInt8 → Bool) (error : IoError) (rest : List Arrival) :
    run wanted (.failure error :: rest) = [] := rfl

@[simp]
theorem run_abortion (wanted : UInt8 → Bool) (message : String) (rest : List Arrival) :
    run wanted (.abortion message :: rest) = [] := rfl

@[simp]
theorem afterRun_nil (wanted : UInt8 → Bool) : afterRun wanted [] = [] := rfl

@[simp]
theorem afterRun_byte (wanted : UInt8 → Bool) (b : UInt8) (rest : List Arrival) :
    afterRun wanted (.byte b :: rest) = if wanted b then afterRun wanted rest else .byte b :: rest := by
  by_cases w : wanted b <;> simp [afterRun, isByteOf, w]

@[simp]
theorem afterRun_failure (wanted : UInt8 → Bool) (error : IoError) (rest : List Arrival) :
    afterRun wanted (.failure error :: rest) = .failure error :: rest := rfl

@[simp]
theorem afterRun_abortion (wanted : UInt8 → Bool) (message : String) (rest : List Arrival) :
    afterRun wanted (.abortion message :: rest) = .abortion message :: rest := rfl

theorem all_run (wanted : UInt8 → Bool) (arrivals : List Arrival) :
    (run wanted arrivals).all wanted = true := by
  induction arrivals with
  | nil => rfl
  | cons arrival rest ih =>
      cases arrival with
      | byte b =>
          rw [run_byte]
          by_cases want : wanted b = true
          · rw [if_pos want, List.all_cons, want, ih, Bool.and_self]
          · rw [if_neg want]
            rfl
      | failure error => rfl
      | abortion message => rfl

/-- What comes behind the wanted bytes is no wanted byte. -/
theorem head?_afterRun (wanted : UInt8 → Bool) (arrivals : List Arrival) (b : UInt8)
    (head : (afterRun wanted arrivals).head? = some (.byte b)) : wanted b = false := by
  have unwanted := List.head?_dropWhile_not (isByteOf wanted) arrivals
  unfold afterRun at head
  rw [head] at unwanted
  exact unwanted

/-- The arrivals that are bytes and nothing else. -/
def ofBytes (bytes : List UInt8) : List Arrival :=
  bytes.map .byte

theorem filterMap_ofBytes (bytes : List UInt8) : (ofBytes bytes).filterMap byte? = bytes := by
  induction bytes <;> simp_all [ofBytes, byte?]

theorem next_ofBytes (bytes : List UInt8) :
    next (ofBytes bytes) = (.returned bytes.head?, ofBytes bytes.tail) := by
  cases bytes <;> rfl

theorem run_ofBytes (wanted : UInt8 → Bool) (bytes : List UInt8) :
    run wanted (ofBytes bytes) = bytes.takeWhile wanted := by
  induction bytes with
  | nil => rfl
  | cons b bytes ih => by_cases w : wanted b <;> simp_all [ofBytes]

theorem afterRun_ofBytes (wanted : UInt8 → Bool) (bytes : List UInt8) :
    afterRun wanted (ofBytes bytes) = ofBytes (bytes.dropWhile wanted) := by
  induction bytes with
  | nil => rfl
  | cons b bytes ih => by_cases w : wanted b <;> simp_all [ofBytes]

/-- The wanted bytes at the front and what comes behind them are all there is. -/
theorem run_append_afterRun (wanted : UInt8 → Bool) (arrivals : List Arrival) :
    ofBytes (run wanted arrivals) ++ afterRun wanted arrivals = arrivals := by
  induction arrivals with
  | nil => rfl
  | cons arrival rest ih =>
      cases arrival with
      | byte b =>
          by_cases want : wanted b = true
          · rw [run_byte, afterRun_byte, if_pos want, if_pos want]
            exact congrArg (.byte b :: ·) ih
          · rw [run_byte, afterRun_byte, if_neg want, if_neg want]
            rfl
      | failure error => rfl
      | abortion message => rfl

theorem halt_ofBytes (bytes : List UInt8) :
    halt (ofBytes bytes) = (.returned (), ofBytes bytes) := by
  cases bytes <;> rfl

end Arrival

/-! ### Sources -/

namespace Source

/-- What the reads of a source bring, up to the first that brings nothing. -/
def arrivals : Source → List Arrival
  | [] => []
  | .data bytes :: rest => Arrival.ofBytes bytes ++ arrivals rest
  | .failure error :: rest =>
      if error.isInterruption then arrivals rest else .failure error :: arrivals rest
  | .nothing :: _ => []
  | .abortion message :: rest => .abortion message :: arrivals rest

/-- The data up to the first read that brings nothing. -/
def data : Source → List UInt8
  | [] => []
  | .data bytes :: rest => bytes ++ data rest
  | .failure _ :: rest => data rest
  | .nothing :: _ => []
  | .abortion _ :: rest => data rest

/-- Up to the first read that brings nothing no read fails, except for interruptions, and every read
returns. -/
def Steady : Source → Prop
  | [] => True
  | .data _ :: rest => Steady rest
  | .failure error :: rest => error.isInterruption ∧ Steady rest
  | .nothing :: _ => True
  | .abortion _ :: _ => False

/-- One read brings the first arrival, and the others come after it. -/
theorem arrivals_read (source : Source) :
    source.arrivals =
      match source.read with
      | (.byte b, rest) => .byte b :: rest.arrivals
      | (.nothing, _) => []
      | (.failure error, rest) => .failure error :: rest.arrivals
      | (.abortion message, rest) => .abortion message :: rest.arrivals := by
  fun_induction read source <;> simp_all [arrivals, Arrival.ofBytes]

/-- The data are the bytes among the arrivals. -/
theorem data_eq (source : Source) : source.data = source.arrivals.filterMap Arrival.byte? := by
  fun_induction data source with
  | case1 => rfl
  | case2 bytes rest ih => rw [arrivals, List.filterMap_append, Arrival.filterMap_ofBytes, ih]
  | case3 error rest ih =>
      rw [arrivals, ih]
      split <;> rfl
  | case4 => rfl
  | case5 message rest ih =>
      rw [arrivals, ih]
      rfl

theorem Steady.arrivals_eq {source : Source} (steady : source.Steady) :
    source.arrivals = Arrival.ofBytes source.data := by
  fun_induction Steady source with
  | case1 => rfl
  | case2 bytes rest ih => simp [arrivals, data, ih steady, Arrival.ofBytes]
  | case3 error rest ih => simp [arrivals, data, steady.1, ih steady.2]
  | case4 => rfl
  | case5 => exact absurd steady id

end Source

/-! ### Streams -/

namespace Stream

/-- What the stream is going to bring: the byte pushed back, then what the source brings. -/
def arrivals (stream : Stream) : List Arrival :=
  Arrival.ofBytes stream.pushedBack.toList ++ if stream.atEnd then [] else stream.source.arrivals

/-- The bytes to come: the one pushed back, then the data up to the first read that brings nothing. -/
def remaining (stream : Stream) : List UInt8 :=
  stream.pushedBack.toList ++ if stream.atEnd then [] else stream.source.data

theorem remaining_eq (stream : Stream) :
    stream.remaining = stream.arrivals.filterMap Arrival.byte? := by
  unfold remaining arrivals
  rw [List.filterMap_append, Arrival.filterMap_ofBytes]
  split
  · rfl
  · rw [Source.data_eq]

theorem arrivals_nextByte (stream : Stream) :
    Arrival.next stream.arrivals = ((nextByte stream).ending, (nextByte stream).state.arrivals) := by
  unfold nextByte
  split
  · simp_all [arrivals, Arrival.ofBytes, Arrival.next]
  · next unpushed =>
      split
      · simp_all [arrivals, Arrival.ofBytes, Arrival.next]
      · next reading =>
          have first := stream.source.arrivals_read
          simp only [arrivals, unpushed, reading, first]
          cases stream.source.read with
          | mk reading rest => cases reading <;> simp [Arrival.next, Arrival.ofBytes]

theorem pushedBack_nextByte (stream : Stream) : (nextByte stream).state.pushedBack = none := by
  unfold nextByte
  split
  · rfl
  · next unpushed =>
      split
      · exact unpushed
      · split <;> exact unpushed

theorem capacity_nextByte (stream : Stream) :
    (nextByte stream).state.capacity = stream.capacity := by
  unfold nextByte
  split
  · rfl
  · split
    · rfl
    · split <;> rfl

theorem arrivals_withPushedBack {stream : Stream} (unpushed : stream.pushedBack = none) (b : UInt8) :
    (stream.withPushedBack b).arrivals = .byte b :: stream.arrivals := by
  unfold arrivals
  rw [unpushed]
  rfl

variable {stream rest : Stream} {ending : Ending IoError (Option UInt8)} {events : List Log.Event}

/-- What came first, told from how its delivery ended. -/
theorem arrivals_of_nextByte (delivered : nextByte stream = ⟨ending, rest, events⟩) :
    stream.arrivals =
      match ending with
      | .returned none => rest.arrivals
      | .returned (some b) => .byte b :: rest.arrivals
      | .failed error => .failure error :: rest.arrivals
      | .aborted message => .abortion message :: rest.arrivals := by
  have first := stream.arrivals_nextByte
  rw [delivered] at first
  cases coming : stream.arrivals with
  | nil =>
      rw [coming] at first
      obtain ⟨rfl, empty⟩ := Prod.mk.inj first
      exact empty
  | cons arrival later =>
      rw [coming] at first
      cases arrival <;> obtain ⟨rfl, rfl⟩ := Prod.mk.inj first <;> rfl

/-- Only where nothing is to come nothing is delivered. -/
theorem arrivals_at_end (delivered : nextByte stream = ⟨.returned none, rest, events⟩) :
    rest.arrivals = [] := by
  have first := stream.arrivals_nextByte
  rw [delivered] at first
  cases coming : stream.arrivals with
  | nil => exact (Prod.mk.inj (coming ▸ first)).2.symm
  | cons arrival later =>
      rw [coming] at first
      cases arrival <;> simp [Arrival.next] at first

theorem capacity_of_nextByte (delivered : nextByte stream = ⟨ending, rest, events⟩) :
    rest.capacity = stream.capacity := by
  have kept := capacity_nextByte stream
  rwa [delivered] at kept

/-- What delivering a byte, or none, does to the pushback and the end. -/
theorem left_of_nextByte {next : Option UInt8}
    (delivered : nextByte stream = ⟨.returned next, rest, events⟩) :
    rest.pushedBack = none ∧ rest.atEnd = (next.isNone || stream.atEnd) := by
  have unpushed := pushedBack_nextByte stream
  rw [delivered] at unpushed
  refine ⟨unpushed, ?_⟩
  unfold nextByte at delivered
  split at delivered
  · cases delivered
    rfl
  · split at delivered
    · next ended =>
        cases delivered
        simp [ended]
    · split at delivered <;> cases delivered <;> simp

/-- Only the first look at the end is logged. -/
theorem events_of_nextByte (delivered : nextByte stream = ⟨ending, rest, events⟩) :
    events = if ending = .returned none ∧ stream.atEnd = false then [.endOfStream] else [] := by
  unfold nextByte at delivered
  split at delivered
  · cases delivered
    rfl
  · by_cases ended : stream.atEnd = true
    · rw [if_pos ended] at delivered
      cases delivered
      simp [ended]
    · rw [if_neg ended] at delivered
      split at delivered <;> cases delivered <;> simp [ended]

/-- So nothing is, where the next byte is not the end. -/
theorem silent_of_nextByte (delivered : nextByte stream = ⟨ending, rest, events⟩)
    (before : ending ≠ .returned none) : events = [] := by
  rw [events_of_nextByte delivered, if_neg fun ended => before ended.1]

end Stream
end RootObject
