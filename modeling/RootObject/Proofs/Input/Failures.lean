import RootObject.Proofs.Input.Halting

/-!
Why reads of a stream fail. A buffer asks for its first capacity, and for twice what it has whenever that
was granted and is full; the first request that is refused is what a read fails with that runs out of memory
(`Stream.readUntil_exhausted_iff`). Any other failure is one that a read of the source has brought, and one
that is brought fails the read (`Stream.Reads.io_iff`).
-/

namespace RootObject

/-! ### Memory -/

namespace Buffer

/-- A buffer of the given first capacity makes a request for `size` bytes on its way to holding `count`: all
that it has requested before was granted. -/
inductive Makes (capacity count : Nat) : Nat → Prop where
  | first : Makes capacity count capacity
  | doubled {size : Nat} : Makes capacity count size → size < limit → size < count →
      Makes capacity count (2 * size)

/-- The request for so many bytes is made and is refused. -/
def Refused (capacity count requested : Nat) : Prop :=
  Makes capacity count requested ∧ limit ≤ requested

variable {capacity count requested : Nat}

theorem makes_iff : Makes capacity count requested ↔ requested = capacity ∨
    capacity < limit ∧ capacity < count ∧ Makes (2 * capacity) count requested := by
  constructor
  · intro makes
    induction makes with
    | first => exact .inl rfl
    | doubled _ small more ih =>
        rcases ih with rfl | ⟨granted, full, later⟩
        · exact .inr ⟨small, more, .first⟩
        · exact .inr ⟨granted, full, later.doubled small more⟩
  · rintro (rfl | ⟨granted, full, later⟩)
    · exact .first
    · induction later with
      | first => exact .doubled .first granted full
      | doubled _ small more ih => exact ih.doubled small more

/-- A first capacity that is not granted is the request that is refused. -/
theorem refused_of_large (large : limit ≤ capacity) : Refused capacity count requested ↔ requested = capacity := by
  constructor
  · rintro ⟨makes, -⟩
    rcases makes_iff.mp makes with same | ⟨granted, -⟩
    · exact same
    · omega
  · rintro rfl
    exact ⟨.first, large⟩

/-- What is held by a granted capacity is refused nothing. -/
theorem not_refused_of_room (granted : capacity < limit) (room : count ≤ capacity) :
    ¬ Refused capacity count requested := by
  rintro ⟨makes, large⟩
  rcases makes_iff.mp makes with rfl | ⟨-, full, -⟩
  · omega
  · omega

/-- Where a granted capacity is outgrown, twice of it is asked for. -/
theorem refused_double (granted : capacity < limit) (full : capacity < count) :
    Refused capacity count requested ↔ Refused (2 * capacity) count requested := by
  unfold Refused
  constructor
  · rintro ⟨makes, large⟩
    rcases makes_iff.mp makes with rfl | ⟨-, -, later⟩
    · omega
    · exact ⟨later, large⟩
  · rintro ⟨later, large⟩
    exact ⟨makes_iff.mpr (.inr ⟨granted, full, later⟩), large⟩

/-- A byte is refused where the buffer is full and twice its capacity is not granted. -/
theorem push_eq_error_iff {buffer : Buffer} {byte : UInt8} {error : ReadError}
    (granted : buffer.capacity < limit) : buffer.push byte = .error error ↔
      buffer.bytes.size = buffer.capacity ∧ limit ≤ 2 * buffer.capacity ∧
        error = .exhausted (2 * buffer.capacity) := by
  have possible : ¬ 2 * buffer.capacity > maxRequest := by
    unfold limit at granted
    unfold maxRequest
    omega
  unfold push
  by_cases full : buffer.bytes.size = buffer.capacity
  · rw [if_pos full]
    unfold grow
    by_cases small : 2 * buffer.capacity < limit
    · simp [possible, small, Except.map, Nat.not_le_of_lt small]
    · simp [possible, small, Except.map, full, Nat.le_of_not_lt small, eq_comm]
  · simp [full]

end Buffer

namespace Stream

namespace Gathering

variable {stop : UInt8 → Bool} {held next last : Gathering} {outcome : Outcome Stream ReadError Buffer}
  {requested : Nat}

/-- The buffer has been granted the room that it has, and holds no more. -/
structure Roomy (held : Gathering) : Prop where
  positive : 0 < held.buffer.capacity
  granted : held.buffer.capacity < Buffer.limit
  room : held.buffer.bytes.size ≤ held.buffer.capacity

/-- On the way to all that the buffer is to hold, a request for so many bytes is refused. -/
def Exhausts (stop : UInt8 → Bool) (held : Gathering) (requested : Nat) : Prop :=
  Buffer.Refused held.buffer.capacity (held.total stop) requested

/-- A round that stores a byte leaves room for it, and the request that is refused, if one is, still to
come. -/
theorem Roomy.stores (roomy : held.Roomy) (stores : held.Stores stop next) :
    next.Roomy ∧ (held.Exhausts stop requested ↔ next.Exhausts stop requested) := by
  have count := stores.total_eq
  unfold Exhausts
  rw [count]
  obtain ⟨positive, granted, room⟩ := roomy
  cases stores with
  | @byte b rest events grown larger delivered passed stored =>
      have more := size_lt_total delivered passed
      have size : (held.buffer.bytes.push b).size ≤ held.buffer.bytes.size + 1 :=
        Nat.le_of_eq (Array.size_push b)
      cases Buffer.pushed_of_push stored with
      | within free =>
          have still : held.buffer.bytes.size + 1 ≤ held.buffer.capacity := by omega
          exact ⟨⟨positive, granted, Nat.le_trans size still⟩, Iff.rfl⟩
      | grown full small =>
          have still : held.buffer.bytes.size + 1 ≤ 2 * held.buffer.capacity := by omega
          have larger : 0 < 2 * held.buffer.capacity := Nat.mul_pos (by decide) positive
          refine ⟨⟨larger, small, Nat.le_trans size still⟩, ?_⟩
          exact Buffer.refused_double granted (full ▸ more)

theorem Roomy.rounds (roomy : held.Roomy) (rounds : Relation.ReflTransGen (Stores stop) held last) :
    last.Roomy ∧ (held.Exhausts stop requested ↔ last.Exhausts stop requested) := by
  induction rounds with
  | refl => exact ⟨roomy, Iff.rfl⟩
  | tail _ stores ih =>
      obtain ⟨roomy, same⟩ := ih
      obtain ⟨onward, still⟩ := roomy.stores stores
      exact ⟨onward, same.trans still⟩

/-- The round that closes the read asks for nothing. -/
theorem Closes.not_exhausts (closes : held.Closes stop outcome) (roomy : held.Roomy) :
    outcome.ending ≠ .failed (.exhausted requested) ∧ ¬ held.Exhausts stop requested := by
  constructor
  · cases closes <;> simp
  · unfold Exhausts total
    rw [closes.concludes.run_eq]
    exact Buffer.not_refused_of_room roomy.granted roomy.room

/-- The round that is refused memory has asked for twice what the buffer had. -/
theorem Refuses.exhausts_iff (refuses : held.Refuses stop outcome) (roomy : held.Roomy) :
    outcome.ending = .failed (.exhausted requested) ↔ held.Exhausts stop requested := by
  unfold Exhausts
  cases refuses with
  | byte delivered passed refused =>
      obtain ⟨full, large, rfl⟩ := (Buffer.push_eq_error_iff roomy.granted).mp refused
      have more := size_lt_total delivered passed
      rw [Buffer.refused_double roomy.granted (full ▸ more), Buffer.refused_of_large large]
      simp [eq_comm]

end Gathering

/-- Gathering runs out of memory where a request of its buffer for the bytes up to the first to stop at is
refused. -/
theorem gather_exhausted_iff (stop : UInt8 → Bool) (buffer : Buffer) (logged : List Log.Event)
    (stream : Stream) (positive : 0 < buffer.capacity) (granted : buffer.capacity < Buffer.limit)
    (held : buffer.bytes.size ≤ buffer.capacity) (requested : Nat) :
    (gather stop buffer logged stream).ending = .failed (.exhausted requested) ↔
      Buffer.Refused buffer.capacity
        (buffer.bytes.size + (Arrival.run (!stop ·) stream.arrivals).length) requested := by
  have starts : Gathering.Roomy ⟨buffer, logged, stream⟩ := ⟨positive, granted, held⟩
  obtain ⟨last, rounds, ends⟩ := Gathering.exists_last stop ⟨buffer, logged, stream⟩
  obtain ⟨roomy, same⟩ := starts.rounds rounds
  refine Iff.trans ?_ same.symm
  rcases ends with closes | refuses
  · obtain ⟨returned, nothing⟩ := closes.not_exhausts roomy
    exact iff_of_false returned nothing
  · exact refuses.exhausts_iff roomy

/-- Reading up to a byte runs out of memory where a request of its buffer is refused: for its first
capacity, whatever comes, or for what the bytes in front of that byte make needed. -/
theorem readUntil_exhausted_iff (stop : UInt8 → Bool) (stream : Stream) (requested : Nat) :
    (readUntil stop stream).ending = .failed (.exhausted requested) ↔
      Buffer.Refused stream.capacity (Arrival.run (!stop ·) stream.arrivals).length requested := by
  unfold readUntil
  by_cases granted : stream.capacity < Buffer.limit
  · have gathers := gather_exhausted_iff stop ⟨#[], stream.capacity⟩ [] stream
      stream.capacity_pos granted (Nat.zero_le _) requested
    simp only [Array.size_empty, Nat.zero_add] at gathers
    rw [Buffer.reserve?_of_lt granted, ← gathers]
    exact Ending.map_eq_failed_iff
  · rw [Buffer.refused_of_large (Nat.le_of_not_lt granted), Buffer.reserve?, if_neg granted]
    simp [eq_comm]

end Stream

/-! ### The source -/

namespace Source

/-- Interrupted reads are made again, so no failure that is brought is an interruption. -/
theorem lasting_of_read {source : Source} {error : IoError} (brought : source.read.1 = .failure error) :
    error.kind ≠ .interrupted := by
  fun_induction read source with
  | case4 rest error' interrupted ih => exact ih brought
  | case5 rest error' lasting =>
      cases brought
      intro same
      exact lasting (decide_eq_true same)
  | case1 | case3 | case6 | case7 => cases brought
  | case2 rest ih => exact ih brought

theorem lasting_of_mem_readings {source : Source} {n : Nat} {error : IoError}
    (among : .failure error ∈ source.readings n) : error.kind ≠ .interrupted := by
  induction n generalizing source with
  | zero => cases among
  | succ n ih =>
      rcases List.mem_cons.mp among with now | later
      · exact lasting_of_read now.symm
      · exact ih later

/-- Where reads bring bytes, and nothing behind them at most, these bytes come first. -/
theorem arrivals_eq_readings (source : Source) (n : Nat)
    (bytes : ∀ reading ∈ (source.readings n).dropLast, reading.byte?.isSome)
    (plain : ∀ reading ∈ source.readings n, reading.byte?.isSome ∨ reading = .nothing) :
    source.arrivals = Arrival.ofBytes ((source.readings n).filterMap Reading.byte?) ++
      if (source.readings n).contains .nothing then [] else (source.after n).arrivals := by
  induction n generalizing source with
  | zero => rfl
  | succ n ih =>
      have first := source.arrivals_read
      rw [readings, List.forall_mem_cons] at plain
      obtain ⟨now, later⟩ := plain
      have behind : ∀ reading ∈ (source.read.2.readings n).dropLast, reading.byte?.isSome := by
        intro reading among
        refine bytes reading ?_
        rw [readings]
        cases n with
        | zero => cases among
        | succ n => exact List.mem_cons_of_mem _ among
      have onward := ih source.read.2 behind later
      rw [readings, after]
      cases brought : source.read with
      | mk reading rest =>
          rw [brought] at first now onward
          cases reading with
          | byte b => simpa [Reading.byte?, first, Arrival.ofBytes] using onward
          | nothing =>
              cases n with
              | zero =>
                  rw [first]
                  rfl
              | succ n =>
                  have notLast := bytes .nothing (by
                    rw [readings, brought, readings, List.dropLast_cons_cons]
                    exact List.mem_cons_self)
                  cases notLast
          | failure error => rcases now with byte | nothing <;> contradiction
          | abortion message => rcases now with byte | nothing <;> contradiction

end Source

namespace Stream

variable {α : Type} {action : Action Stream ReadError α} {stream : Stream} {n : Nat}
  {demand : Demand α} {segment : List UInt8}

/-- An action that has read bytes only, and nothing at the end at most, leaves what comes behind those that
it takes. -/
theorem Reads.arrivals_eq (reads : Reads ReadError.io action stream n)
    (plain : ∀ reading ∈ stream.source.readings n, reading.byte?.isSome ∨ reading = .nothing)
    (balance : stream.pushedBack.toList ++ (stream.source.readings n).filterMap Reading.byte? =
      segment ++ (action stream).state.pushedBack.toList) :
    stream.arrivals = Arrival.ofBytes segment ++ (action stream).state.arrivals := by
  have ends := reads.atEnd
  have joined : ∀ first second : List UInt8, Arrival.ofBytes first ++ Arrival.ofBytes second =
      Arrival.ofBytes (first ++ second) := fun _ _ => List.map_append.symm
  unfold arrivals
  rw [reads.source_eq, ← List.append_assoc, joined, ← balance]
  cases ended : stream.atEnd with
  | true =>
      have none := reads.still ended
      subst none
      rw [ended, Bool.true_or] at ends
      rw [ends]
      simp [Source.readings]
  | false =>
      rw [ended, Bool.false_or] at ends
      rw [ends, stream.source.arrivals_eq_readings n reads.bytes plain, ← joined, List.append_assoc]
      simp

/-- An action fails with an error of the source just where one of its reads has brought that. -/
theorem Reads.io_iff (reads : Reads ReadError.io action stream n)
    (settles : demand.Settles stream.arrivals (action stream).ending segment
      (action stream).state.arrivals) (error : IoError) :
    (action stream).ending = .failed (.io error) ↔ .failure error ∈ stream.source.readings n := by
  constructor
  · intro failed
    have conserved := settles.conserved
    rw [← remaining_eq, ← remaining_eq] at conserved
    rw [failed] at settles
    by_cases read : .failure error ∈ stream.source.readings n
    · exact read
    have plain : ∀ reading ∈ stream.source.readings n, reading.byte?.isSome ∨ reading = .nothing := by
      intro reading among
      cases reading with
      | byte b => exact .inl rfl
      | nothing => exact .inr rfl
      | failure error' =>
          cases failed.symm.trans (reads.failed error' among)
          exact absurd among read
      | abortion message => cases failed.symm.trans ((reads.aborted message).mpr among)
    have left := reads.arrivals_eq plain (reads.balance conserved)
    have met := settles.fares_of_io.eq_append_of_failed.symm.trans left
    exact absurd (List.append_cancel_left met) (List.cons_ne_self _ _)
  · exact reads.failed error

end Stream
end RootObject
