import RootObject.Proofs.Action
import RootObject.Proofs.Input.Arrivals

/-!
How often an action of a stream reads the source, and what those reads have to do with what becomes of
it. `Stream.Reads` says that an action reads the source so many times: any other source that brings the
same in as many reads leads to the same, so nothing that is scripted behind them has a part in it. Only
the last of the reads brings no byte, and where the end has been seen there are none. All operations of a
stream are put together from single reads by sequencing, and `Reads` is kept by that
(`Reads.bind`).
-/

namespace RootObject

/-! ### Reads of a source -/

namespace Reading

def byte? : Reading → Option UInt8
  | .byte b => some b
  | _ => none

/-- Bytes, with nothing behind them at most. -/
theorem map_byte_of_plain {readings : List Reading}
    (bytes : ∀ reading ∈ readings.dropLast, reading.byte?.isSome)
    (plain : ∀ reading ∈ readings, reading.byte?.isSome ∨ reading = .nothing) :
    readings = (readings.filterMap byte?).map .byte ++
      if readings.contains .nothing then [.nothing] else [] := by
  have same : ∀ reading : Reading, reading.byte?.isSome → ∃ b, reading = .byte b := by
    intro reading present
    cases reading with
    | byte b => exact ⟨b, rfl⟩
    | nothing | failure _ | abortion _ => cases present
  induction readings with
  | nil => rfl
  | cons reading rest ih =>
      obtain ⟨now, later⟩ := List.forall_mem_cons.mp plain
      cases rest with
      | nil =>
          rcases now with present | rfl
          · obtain ⟨b, rfl⟩ := same reading present
            rfl
          · rfl
      | cons second rest =>
          rw [List.dropLast_cons_cons, List.forall_mem_cons] at bytes
          obtain ⟨b, rfl⟩ := same reading bytes.1
          have onward := ih bytes.2 later
          generalize second :: rest = behind at onward ⊢
          simpa [byte?] using onward

end Reading

namespace Source

/-- What so many reads bring. -/
def readings : Source → Nat → List Reading
  | _, 0 => []
  | source, n + 1 => source.read.1 :: source.read.2.readings n

/-- What is to be read after so many reads. -/
def after : Source → Nat → Source
  | source, 0 => source
  | source, n + 1 => source.read.2.after n

variable {source : Source}

@[simp]
theorem length_readings (source : Source) (n : Nat) : (source.readings n).length = n := by
  induction n generalizing source with
  | zero => rfl
  | succ n ih => rw [readings, List.length_cons, ih]

theorem readings_add (source : Source) (m n : Nat) :
    source.readings (m + n) = source.readings m ++ (source.after m).readings n := by
  induction m generalizing source with
  | zero => rw [Nat.zero_add, readings, after, List.nil_append]
  | succ m ih => rw [Nat.succ_add, readings, readings, after, ih, List.cons_append]

/-- Pieces and bytes. -/
def weight : Source → Nat
  | [] => 0
  | .data bytes :: rest => bytes.length + 1 + weight rest
  | _ :: rest => 1 + weight rest

theorem weight_read (source : Source) : source.read.2.weight ≤ source.weight := by
  fun_induction read source <;> simp_all [weight] <;> omega

/-- Only where there is nothing a read leaves as much as there was. -/
theorem weight_read_lt (source : Source) (some : source.read.1 ≠ .nothing) :
    source.read.2.weight < source.weight := by
  fun_induction read source <;> simp_all [weight] <;> omega

theorem weight_after (source : Source) (n : Nat) : (source.after n).weight ≤ source.weight := by
  induction n generalizing source with
  | zero => exact Nat.le_refl _
  | succ n ih => exact Nat.le_trans (ih _) source.weight_read

theorem after_add (source : Source) (m n : Nat) : source.after (m + n) = (source.after m).after n := by
  induction m generalizing source with
  | zero => rw [Nat.zero_add, after]
  | succ m ih => rw [Nat.succ_add, after, after, ih]

end Source

/-! ### Actions that read -/

namespace Stream

/-- The stream over another source. -/
def withSource (stream : Stream) (source : Source) : Stream :=
  { stream with source }

@[simp]
theorem withSource_self (stream : Stream) : stream.withSource stream.source = stream := rfl

end Stream

/-- The outcome that leaves the stream over another source. -/
def Outcome.withSource {ε α : Type} (outcome : Outcome Stream ε α) (source : Source) :
    Outcome Stream ε α :=
  { outcome with state := outcome.state.withSource source }

namespace Stream

variable {ε ε' α β : Type}

/-- From this stream the action reads the source `n` times. A failure of a read is told in its
terms. -/
structure Reads (tell : IoError → ε) (action : Action Stream ε α) (stream : Stream) (n : Nat) :
    Prop where
  /-- What comes behind the reads has no part in the outcome. -/
  same : ∀ source, source.readings n = stream.source.readings n →
    action (stream.withSource source) = (action stream).withSource (source.after n)
  /-- Behind the end nothing is read. -/
  still : stream.atEnd = true → n = 0
  /-- The end is where a read has brought nothing. -/
  atEnd : (action stream).state.atEnd =
    (stream.atEnd || (stream.source.readings n).contains .nothing)
  /-- The buffers of later reads start as large as before. -/
  capacity : (action stream).state.capacity = stream.capacity
  /-- Only the last of the reads brings no byte. -/
  bytes : ∀ reading ∈ (stream.source.readings n).dropLast, reading.byte?.isSome
  /-- A read that fails ends the action. -/
  failed : ∀ error, .failure error ∈ stream.source.readings n →
    (action stream).ending = .failed (tell error)
  /-- A read that does not return ends the action, and nothing else aborts it. -/
  aborted : ∀ message, (action stream).ending = .aborted message ↔
    .abortion message ∈ stream.source.readings n
  /-- No byte is pushed back while the source is read. -/
  unpushed : ∀ message, (action stream).ending = .aborted message →
    (action stream).state.pushedBack = none
  /-- Had the read that does not return failed instead, then so had the action, and no more. -/
  softened : ∀ message, (action stream).ending = .aborted message → ∀ source error,
    source.readings n = (stream.source.readings n).dropLast ++ [.failure error] →
    action (stream.withSource source) =
      ⟨.failed (tell error), (action stream).state.withSource (source.after n),
        (action stream).events⟩

namespace Reads

variable {tell : IoError → ε} {action : Action Stream ε α} {stream : Stream} {n : Nat}

/-- The source is left where the reads have left it. -/
theorem source_eq (reads : Reads tell action stream n) :
    (action stream).state.source = stream.source.after n :=
  congrArg (fun outcome => outcome.state.source) (reads.same stream.source rfl)

/-- An action that does the same whatever the source is reads nothing. -/
theorem of_untouched
    (same : ∀ source, action (stream.withSource source) = (action stream).withSource source)
    (atEnd : (action stream).state.atEnd = stream.atEnd)
    (capacity : (action stream).state.capacity = stream.capacity)
    (unaborted : ∀ message, (action stream).ending ≠ .aborted message) :
    Reads tell action stream 0 where
  same source _ := same source
  still _ := rfl
  atEnd := by simpa [Source.readings] using atEnd
  capacity := capacity
  bytes _ mem := absurd mem List.not_mem_nil
  failed _ mem := absurd mem List.not_mem_nil
  aborted message := iff_of_false (unaborted message) List.not_mem_nil
  unpushed message ended := absurd ended (unaborted message)
  softened message ended := absurd ended (unaborted message)

protected theorem pure (value : α) : Reads tell (pure value) stream 0 :=
  of_untouched (fun _ => rfl) rfl rfl fun _ aborted => by cases aborted

theorem fail (error : ε) : Reads tell (Action.fail error : Action Stream ε α) stream 0 :=
  of_untouched (fun _ => rfl) rfl rfl fun _ aborted => by cases aborted

theorem emit (event : Log.Event) : Reads tell (Action.emit event) stream 0 :=
  of_untouched (fun _ => rfl) rfl rfl fun _ aborted => by cases aborted

/-- An action that tells the outcome of another in other terms reads what that one reads. -/
theorem told {tell' : IoError → ε'} {action' : Action Stream ε' β}
    (reads : Reads tell action stream n) (f : Outcome Stream ε α → Outcome Stream ε' β)
    (same : ∀ source, action' (stream.withSource source) = f (action (stream.withSource source)))
    (moved : ∀ source, f ((action stream).withSource source) = (f (action stream)).withSource source)
    (state : (f (action stream)).state = (action stream).state)
    (aborted : ∀ message, (f (action stream)).ending = .aborted message ↔
      (action stream).ending = .aborted message)
    (failed : ∀ error, (action stream).ending = .failed (tell error) →
      (f (action stream)).ending = .failed (tell' error))
    (softened : ∀ error state, f ⟨.failed (tell error), state, (action stream).events⟩ =
      ⟨.failed (tell' error), state, (f (action stream)).events⟩) :
    Reads tell' action' stream n := by
  have here : action' stream = f (action stream) := same stream.source
  constructor
  case same =>
      intro source agrees
      rw [same, here, reads.same source agrees, moved]
  case still => exact reads.still
  case atEnd => rw [here, state, reads.atEnd]
  case capacity => rw [here, state, reads.capacity]
  case bytes => exact reads.bytes
  case failed =>
      intro error among
      rw [here, failed error (reads.failed error among)]
  case aborted =>
      intro message
      rw [here, aborted, reads.aborted]
  case unpushed =>
      intro message ended
      rw [here] at ended ⊢
      rw [state, reads.unpushed message ((aborted message).mp ended)]
  case softened =>
      intro message ended source error replaced
      rw [here] at ended ⊢
      rw [same, reads.softened message ((aborted message).mp ended) source error replaced, softened,
        state]

protected theorem mapError (reads : Reads tell action stream n) (f : ε → ε') :
    Reads (fun error => f (tell error)) (action.mapError f) stream n := by
  refine reads.told (Outcome.mapError f) (fun _ => rfl) (fun _ => rfl) rfl (fun message => ?_)
    (fun error failed => ?_) fun _ _ => rfl
  · rcases action stream with ⟨_ | _ | _, state, events⟩ <;> simp [Outcome.mapError, Ending.mapError]
  · simp [Outcome.mapError, Ending.mapError, failed]

protected theorem map {action' : Action Stream ε β} (reads : Reads tell action stream n) (f : α → β)
    (same : ∀ source, action' (stream.withSource source) =
      (action (stream.withSource source)).map f) : Reads tell action' stream n := by
  refine reads.told (Outcome.map f) same (fun _ => rfl) rfl (fun message => ?_)
    (fun error failed => ?_) fun _ _ => rfl
  · rcases action stream with ⟨_ | _ | _, state, events⟩ <;> simp [Outcome.map, Ending.map]
  · simp [Outcome.map, Ending.map, failed]

/-- What was logged before has no part in what is read. -/
protected theorem after {action' : Action Stream ε α} (reads : Reads tell action stream n)
    (logged : List Log.Event)
    (same : ∀ source, action' (stream.withSource source) =
      (action (stream.withSource source)).after logged) : Reads tell action' stream n :=
  reads.told (Outcome.after logged) same (fun _ => rfl) rfl (fun _ => .rfl) (fun _ => id)
    fun _ _ => rfl

/-- An action that has not returned is not gone on from. -/
theorem bind_of_not_returned {next : α → Action Stream ε β} (reads : Reads tell action stream n)
    (unreturned : ∀ value, (action stream).ending ≠ .returned value) :
    Reads tell (action >>= next) stream n := by
  cases ended : (action stream).ending with
  | returned value => exact absurd ended (unreturned value)
  | failed error =>
      refine reads.told (Outcome.andThen · next) (fun _ => rfl) ?_ ?_ ?_ ?_ ?_ <;>
        simp [Outcome.andThen, Outcome.withSource, ended]
  | aborted message =>
      refine reads.told (Outcome.andThen · next) (fun _ => rfl) ?_ ?_ ?_ ?_ ?_ <;>
        simp [Outcome.andThen, Outcome.withSource, ended]

/-- An action that returned has read bytes, and nothing at the end at most. -/
theorem plain_of_returned {value : α} (reads : Reads tell action stream n)
    (returned : (action stream).ending = .returned value) :
    ∀ reading ∈ stream.source.readings n, reading.byte?.isSome ∨ reading = .nothing := by
  intro reading among
  cases reading with
  | byte b => exact .inl rfl
  | nothing => exact .inr rfl
  | failure error => exact absurd (returned.symm.trans (reads.failed error among)) (by simp)
  | abortion message =>
      exact absurd (returned.symm.trans ((reads.aborted message).mpr among)) (by simp)

/-- The next action reads on from where the first has left the source. -/
theorem bind_of_returned {next : α → Action Stream ε β} {value : α} {m : Nat}
    (reads : Reads tell action stream n) (returned : (action stream).ending = .returned value)
    (later : Reads tell (next value) (action stream).state m) :
    Reads tell (action >>= next) stream (n + m) := by
  have whole : (action >>= next) stream =
      (next value (action stream).state).after (action stream).events :=
    Action.bind_of_returned returned
  have all : stream.source.readings (n + m) =
      stream.source.readings n ++ (action stream).state.source.readings m := by
    rw [Source.readings_add, reads.source_eq]
  -- On a source that agrees in the first reads the first action returns as well.
  have begun : ∀ source, source.readings n = stream.source.readings n →
      (action >>= next) (stream.withSource source) =
        (next value ((action stream).state.withSource (source.after n))).after
          (action stream).events := by
    intro source first
    have same := reads.same source first
    have returned' : (action (stream.withSource source)).ending = .returned value := by
      rw [same]
      exact returned
    rw [Action.bind_of_returned returned', same]
    rfl
  have plain := reads.plain_of_returned returned
  -- Where the first action has seen the end, the next one reads nothing.
  have ended : .nothing ∈ stream.source.readings n → m = 0 := by
    intro among
    apply later.still
    rw [reads.atEnd, List.contains_iff_mem.mpr among, Bool.or_true]
  constructor
  case same =>
      intro source agrees
      rw [Source.readings_add, all] at agrees
      obtain ⟨first, second⟩ := List.append_inj agrees (by simp)
      rw [begun source first, later.same _ second, whole, Source.after_add]
      rfl
  case still =>
      intro atEnd
      have nothing := reads.still atEnd
      have state := reads.atEnd
      rw [atEnd, Bool.true_or] at state
      rw [nothing, later.still state]
  case atEnd =>
      rw [whole, Outcome.state_after, later.atEnd, reads.atEnd, all, Bool.or_assoc]
      simp
  case capacity => rw [whole, Outcome.state_after, later.capacity, reads.capacity]
  case bytes =>
      intro reading among
      rw [all] at among
      by_cases more : (action stream).state.source.readings m = []
      · rw [more, List.append_nil] at among
        exact reads.bytes reading among
      · rw [List.dropLast_append_of_ne_nil more, List.mem_append] at among
        rcases among with first | second
        · rcases plain reading first with byte | rfl
          · exact byte
          · rw [ended first] at more
            exact absurd rfl more
        · exact later.bytes reading second
  case failed =>
      intro error among
      rw [all, List.mem_append] at among
      rcases among with first | second
      · rcases plain _ first with byte | nothing
        · cases byte
        · cases nothing
      · rw [whole, Outcome.ending_after]
        exact later.failed error second
  case aborted =>
      intro message
      rw [whole, Outcome.ending_after, later.aborted, all, List.mem_append]
      refine ⟨.inr, fun among => among.resolve_left fun first => ?_⟩
      rcases plain _ first with byte | nothing
      · cases byte
      · cases nothing
  case unpushed =>
      intro message aborted
      rw [whole] at aborted ⊢
      exact later.unpushed message aborted
  case softened =>
      intro message aborted source error replaced
      rw [whole] at aborted ⊢
      have among := (later.aborted message).mp aborted
      rw [all, List.dropLast_append_of_ne_nil (List.ne_nil_of_mem among), Source.readings_add,
        List.append_assoc] at replaced
      obtain ⟨first, second⟩ := List.append_inj replaced (by simp)
      rw [begun source first, later.softened message aborted _ error second, Source.after_add]
      rfl

/-- What follows an action that returned reads on from there. -/
protected theorem bind {next : α → Action Stream ε β} (reads : ∃ n, Reads tell action stream n)
    (later : ∀ value, (action stream).ending = .returned value →
      ∃ m, Reads tell (next value) (action stream).state m) :
    ∃ n, Reads tell (action >>= next) stream n := by
  obtain ⟨n, reads⟩ := reads
  cases ended : (action stream).ending with
  | returned value =>
      obtain ⟨m, second⟩ := later value ended
      exact ⟨n + m, reads.bind_of_returned ended second⟩
  | failed error => exact ⟨n, reads.bind_of_not_returned (by simp [ended])⟩
  | aborted message => exact ⟨n, reads.bind_of_not_returned (by simp [ended])⟩

end Reads

namespace Reads

variable {tell : IoError → ε} {action : Action Stream ε α} {stream : Stream} {n : Nat}

/-- Of two counts the larger would have to tell of a read that nothing shows. -/
theorem not_lt {m : Nat} (reads : Reads tell action stream n) (reads' : Reads tell action stream m) :
    ¬ n < m := by
  intro less
  obtain ⟨k, rfl⟩ := Nat.exists_eq_add_of_lt less
  have first : stream.source.readings (n + k + 1) =
      stream.source.readings n ++ (stream.source.after n).readings (k + 1) := by
    rw [Nat.add_assoc, Source.readings_add]
  -- Of the more reads only the last can bring the end, and the fewer do not, so none does.
  have unended : stream.atEnd = false := by
    cases atEnd : stream.atEnd with
    | false => rfl
    | true => cases reads'.still atEnd
  have unseen : .nothing ∉ stream.source.readings n := by
    intro among
    have bytes := reads'.bytes .nothing (by
      rw [first, List.dropLast_append_of_ne_nil (by simp [Source.readings])]
      exact List.mem_append_left _ among)
    cases bytes
  have plain : .nothing ∉ stream.source.readings (n + k + 1) := by
    have both := reads.atEnd.symm.trans reads'.atEnd
    rw [unended, Bool.false_or, Bool.false_or] at both
    rw [← List.contains_iff_mem, ← both, List.contains_iff_mem]
    exact unseen
  have next : (stream.source.after n).read.1 ≠ .nothing := by
    intro nothing
    rw [first, Source.readings, nothing] at plain
    exact plain (by simp)
  have lighter := (stream.source.after n).weight_read_lt next
  have later := (stream.source.after n).read.2.weight_after k
  have same := reads.source_eq.symm.trans reads'.source_eq
  rw [Nat.add_assoc, Source.after_add, Source.after] at same
  rw [← same] at later
  omega

/-- How often the source is read is certain. -/
theorem unique {m : Nat} (reads : Reads tell action stream n) (reads' : Reads tell action stream m) :
    n = m :=
  Nat.le_antisymm (Nat.not_lt.mp (reads'.not_lt reads)) (Nat.not_lt.mp (reads.not_lt reads'))

end Reads

/-! ### The operations of a stream -/

theorem unread_reads (b : UInt8) (stream : Stream) : Reads id (unread b) stream 0 :=
  .of_untouched (fun _ => rfl) rfl rfl fun _ aborted => by cases aborted

/-- What delivering the next byte comes to that the source is read for. -/
def ofReading (reading : Reading) (rest : Stream) : Outcome Stream IoError (Option UInt8) :=
  match reading with
  | .byte b => ⟨.returned (some b), rest, []⟩
  | .nothing => ⟨.returned none, { rest with atEnd := true }, [.endOfStream]⟩
  | .failure error => ⟨.failed error, rest, []⟩
  | .abortion message => ⟨.aborted message, rest, []⟩

section NextByte

variable {stream : Stream} (unpushed : stream.pushedBack = none) (reading : stream.atEnd = false)

include unpushed reading

theorem nextByte_eq_ofReading (source : Source) :
    nextByte (stream.withSource source) =
      ofReading source.read.1 (stream.withSource source.read.2) := by
  simp only [nextByte, withSource, unpushed, reading, ofReading]
  cases source.read.1 <;> rfl

/-- Where no byte is pushed back and the end has not been seen, the source is read once. -/
theorem nextByte_reads_one : Reads id nextByte stream 1 := by
  have one : ∀ source : Source, source.readings 1 = [source.read.1] := fun _ => rfl
  have next : ∀ source : Source, source.after 1 = source.read.2 := fun _ => rfl
  have does := nextByte_eq_ofReading unpushed reading
  have here := does stream.source
  rw [withSource_self] at here
  constructor
  case same =>
      intro source agrees
      obtain ⟨agrees, -⟩ := List.cons.inj agrees
      rw [does source, here, agrees, next]
      cases stream.source.read.1 <;> rfl
  case softened =>
      intro message aborted source error replaced
      obtain ⟨replaced, -⟩ := List.cons.inj replaced
      rw [does source, here, replaced, next]
      rw [here] at aborted
      cases brought : stream.source.read.1 <;> rw [brought] at aborted <;> cases aborted
      rfl
  case still => exact fun ended => absurd ended (by simp [reading])
  case capacity => exact capacity_nextByte stream
  case bytes => exact fun _ among => absurd among List.not_mem_nil
  case unpushed =>
      intro message _
      exact pushedBack_nextByte stream
  all_goals
    rw [here, one]
    cases stream.source.read.1 <;> simp [ofReading, withSource, reading, eq_comm]

end NextByte

theorem nextByte_reads (stream : Stream) : ∃ n, Reads id nextByte stream n := by
  cases pushed : stream.pushedBack with
  | some b =>
      refine ⟨0, .of_untouched ?_ ?_ ?_ ?_⟩ <;> simp [nextByte, withSource, Outcome.withSource, pushed]
  | none =>
      cases ended : stream.atEnd with
      | true =>
          refine ⟨0, .of_untouched ?_ ?_ ?_ ?_⟩ <;>
            simp [nextByte, withSource, Outcome.withSource, pushed, ended]
      | false => exact ⟨1, nextByte_reads_one pushed ended⟩

/-- The next byte delivered, and where it came from. -/
theorem peek_reads (stream : Stream) : ∃ n, Reads id peek stream n := by
  refine Reads.bind stream.nextByte_reads fun next _ => ?_
  cases next with
  | none => exact ⟨0, .pure none⟩
  | some b => exact Reads.bind ⟨0, unread_reads b _⟩ fun _ _ => ⟨0, .pure (some b)⟩

/-! ### Scans

Gathering and skipping take one byte after another: after each they are done, or scan on. -/

/-- What a scan does with the next byte: it is done, puts the byte back, or scans on. -/
inductive ScanStep {κ : Type} (scan : κ → Action Stream ε α) (next : Option UInt8 → Action Stream ε α) :
    Option UInt8 → Prop where
  | done {b? : Option UInt8} {ending : Ending ε α} (unaborted : ∀ message, ending ≠ .aborted message)
      (same : ∀ rest, next b? rest = ⟨ending, rest, []⟩) : ScanStep scan next b?
  | stopped {b : UInt8} {value : α}
      (same : ∀ rest, next (some b) rest = ⟨.returned value, rest.withPushedBack b, []⟩) :
      ScanStep scan next (some b)
  | goesOn {b : UInt8} {held : κ} {logged : List Log.Event}
      (same : ∀ rest, next (some b) rest = (scan held rest).after logged) : ScanStep scan next (some b)

/-- A scan, told by what it does with the next byte. What it holds of the bytes before is of no account
here. -/
structure IsScan {κ : Type} (tell : IoError → ε) (scan : κ → Action Stream ε α)
    (next : κ → Option UInt8 → Action Stream ε α) : Prop where
  begins : ∀ held, scan held = nextByte.mapError tell >>= next held
  onward : ∀ held b?, ScanStep scan (next held) b?

section IsScan

variable {κ : Type} {tell : IoError → ε} {scan : κ → Action Stream ε α}
  {next : κ → Option UInt8 → Action Stream ε α}

/-- A scan is told by what it has read. -/
theorem IsScan.reads (isScan : IsScan tell scan next) (held : κ) (stream : Stream) :
    ∃ n, Reads tell (scan held) stream n := by
  -- A byte that is delivered leaves a smaller stream.
  induction size : stream.size using Nat.strongRecOn generalizing held stream with
  | ind _ ih =>
      subst size
      rw [isScan.begins]
      obtain ⟨n, first⟩ := stream.nextByte_reads
      refine Reads.bind ⟨n, first.mapError tell⟩ fun b? returned => ?_
      cases isScan.onward held b? with
      | done unaborted same =>
          refine ⟨0, .of_untouched (fun source => ?_) ?_ ?_ ?_⟩ <;> simp [same, Outcome.withSource, unaborted]
      | stopped same =>
          refine ⟨0, .of_untouched (fun source => ?_) ?_ ?_ ?_⟩ <;>
            simp [same, withSource, withPushedBack, Outcome.withSource]
      | @goesOn b held' logged same =>
          have delivered := Outcome.eq_of_ending (Ending.mapError_eq_returned returned)
          obtain ⟨m, later⟩ := ih _ (size_nextByte delivered) held' _ rfl
          exact ⟨m, later.after logged fun source => same _⟩

end IsScan

/-- What was logged before stands before what gathering logs. -/
theorem gather_append (stop : UInt8 → Bool) (buffer : Buffer) (earlier logged : List Log.Event)
    (stream : Stream) :
    gather stop buffer (earlier ++ logged) stream =
      (gather stop buffer logged stream).after earlier := by
  fun_induction gather stop buffer logged stream <;>
    · rw [gather]
      split <;> simp_all [Outcome.after]

/-- What gathering does with the next byte. -/
def gatherNext (stop : UInt8 → Bool) (buffer : Buffer) :
    Option UInt8 → Action Stream ReadError Buffer
  | none => fun rest => ⟨.returned buffer, rest, []⟩
  | some b => fun rest =>
      if stop b then ⟨.returned buffer, rest.withPushedBack b, []⟩
      else
        match buffer.push b with
        | .error error => ⟨.failed error, rest, []⟩
        | .ok (buffer, grown) => (gather stop buffer [] rest).after grown

theorem gather_eq_bind (stop : UInt8 → Bool) (buffer : Buffer) :
    gather stop buffer [] = nextByte.mapError ReadError.io >>= gatherNext stop buffer := by
  funext stream
  fun_cases gather stop buffer [] stream with
  | case6 b rest events delivered passed pushed grown stored =>
      have onward := gather_append stop pushed (events ++ grown) [] rest
      rw [List.append_nil] at onward
      simp [gatherNext, Action.bind_apply, Action.mapError, Outcome.mapError, Ending.mapError, delivered,
        Outcome.andThen, passed, stored, onward, Outcome.after_after]
  | _ =>
      simp_all [gatherNext, Action.bind_apply, Action.mapError, Outcome.mapError, Ending.mapError,
        Outcome.andThen, Outcome.after]

theorem gather_isScan (stop : UInt8 → Bool) :
    IsScan ReadError.io (gather stop · []) (gatherNext stop) where
  begins := gather_eq_bind stop
  onward buffer b? := by
    cases b? with
    | none => exact .done (fun _ aborted => by cases aborted) fun _ => rfl
    | some b =>
        by_cases stopped : stop b = true
        · exact .stopped fun _ => if_pos stopped
        · cases stored : buffer.push b with
          | error error =>
              have refused : ∀ rest, gatherNext stop buffer (some b) rest =
                  ⟨.failed error, rest, []⟩ := fun rest => by
                simp only [gatherNext, if_neg stopped, stored]
              exact .done (fun _ aborted => by cases aborted) refused
          | ok grown =>
              refine @ScanStep.goesOn _ _ _ _ _ b grown.1 grown.2 fun rest => ?_
              simp only [gatherNext, if_neg stopped, stored]

theorem readUntil_reads (stop : UInt8 → Bool) (stream : Stream) :
    ∃ n, Reads ReadError.io (readUntil stop) stream n := by
  cases reserved : Buffer.reserve? stream.capacity with
  | none =>
      refine ⟨0, .of_untouched ?_ ?_ ?_ ?_⟩ <;>
        simp [readUntil, withSource, Outcome.withSource, reserved]
  | some buffer =>
      obtain ⟨n, reads⟩ := (gather_isScan stop).reads buffer stream
      refine ⟨n, reads.map (fun buffer => Utf8.decode buffer.bytes.toList) fun source => ?_⟩
      simp [readUntil, withSource, reserved]

theorem skip_append (unwanted : UInt8 → Bool) (count : Nat) (earlier logged : List Log.Event)
    (stream : Stream) :
    skip unwanted count (earlier ++ logged) stream =
      (skip unwanted count logged stream).after earlier := by
  fun_induction skip unwanted count logged stream <;>
    · rw [skip]
      split <;> simp_all [Outcome.after]

/-- What skipping does with the next byte. -/
def skipNext (unwanted : UInt8 → Bool) (count : Nat) : Option UInt8 → Action Stream IoError Nat
  | none => fun rest => ⟨.returned count, rest, []⟩
  | some b => fun rest =>
      if unwanted b then skip unwanted (count + 1) [] rest
      else ⟨.returned count, rest.withPushedBack b, []⟩

theorem skip_eq_bind (unwanted : UInt8 → Bool) (count : Nat) :
    skip unwanted count [] = nextByte.mapError id >>= skipNext unwanted count := by
  funext stream
  fun_cases skip unwanted count [] stream with
  | case4 b rest events delivered passed =>
      have onward := skip_append unwanted (count + 1) events [] rest
      rw [List.append_nil] at onward
      simp [skipNext, Action.bind_apply, Action.mapError, Outcome.mapError, Ending.mapError, delivered,
        Outcome.andThen, passed, onward]
  | _ =>
      simp_all [skipNext, Action.bind_apply, Action.mapError, Outcome.mapError, Ending.mapError,
        Outcome.andThen, Outcome.after]

theorem skip_isScan (unwanted : UInt8 → Bool) :
    IsScan id (skip unwanted · []) (skipNext unwanted) where
  begins := skip_eq_bind unwanted
  onward count b? := by
    cases b? with
    | none => exact .done (fun _ aborted => by cases aborted) fun _ => rfl
    | some b =>
        by_cases passed : unwanted b = true
        · refine @ScanStep.goesOn _ _ _ _ _ b (count + 1) [] fun rest => ?_
          simp only [skipNext, if_pos passed, Outcome.after_nil]
        · exact .stopped fun _ => if_neg passed

theorem skipWhile_reads (unwanted : UInt8 → Bool) (stream : Stream) :
    ∃ n, Reads id (skipWhile unwanted) stream n :=
  (skip_isScan unwanted).reads 0 stream

end Stream

/-! ### Bytes

What the reads of an action bring are data of the source, and no other bytes reach the action than
these and the one pushed back. -/

namespace Source

theorem data_read (source : Source) :
    source.data =
      match source.read with
      | (.byte b, rest) => b :: rest.data
      | (.nothing, _) => []
      | (.failure _, rest) => rest.data
      | (.abortion _, rest) => rest.data := by
  fun_induction read source <;> simp_all [data]

/-- What some reads bring and what comes behind them are the data, up to the first end. -/
theorem data_eq_readings (source : Source) (n : Nat)
    (bytes : ∀ reading ∈ (source.readings n).dropLast, reading.byte?.isSome) :
    source.data = (source.readings n).filterMap Reading.byte? ++
      if (source.readings n).contains .nothing then [] else (source.after n).data := by
  induction n generalizing source with
  | zero => rfl
  | succ n ih =>
      have first := source.data_read
      rw [readings, after]
      cases n with
      | zero =>
          rw [first, readings, after]
          cases source.read with
          | mk reading rest => cases reading <;> simp [Reading.byte?]
      | succ n =>
          have more : source.read.2.readings (n + 1) ≠ [] := by simp [readings]
          rw [readings, List.dropLast_cons_of_ne_nil more, List.forall_mem_cons] at bytes
          obtain ⟨isByte, later⟩ := bytes
          rw [first]
          cases brought : source.read with
          | mk reading rest =>
              rw [brought] at isByte later
              cases reading with
              | byte b => simp [ih rest later, Reading.byte?]
              | nothing => cases isByte
              | failure error => cases isByte
              | abortion message => cases isByte

end Source

namespace Stream

/-- The byte pushed back and those that the reads bring are what the action takes, and the byte pushed
back by then. -/
theorem Reads.balance {ε α : Type} {tell : IoError → ε} {action : Action Stream ε α} {stream : Stream}
    {n : Nat} {segment : List UInt8} (reads : Reads tell action stream n)
    (conserved : segment ++ (action stream).state.remaining = stream.remaining) :
    stream.pushedBack.toList ++ (stream.source.readings n).filterMap Reading.byte? =
      segment ++ (action stream).state.pushedBack.toList := by
  have ends := reads.atEnd
  unfold remaining at conserved
  rw [reads.source_eq] at conserved
  cases ended : stream.atEnd with
  | true =>
      have none := reads.still ended
      subst none
      simpa [ends, ended, Source.readings] using conserved.symm
  | false =>
      rw [stream.source.data_eq_readings n reads.bytes] at conserved
      simp only [ends, ended, Bool.false_or, Bool.false_eq_true, if_false, ← List.append_assoc]
        at conserved
      exact (List.append_cancel_right conserved).symm

end Stream
end RootObject
