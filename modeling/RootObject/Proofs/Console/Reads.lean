import RootObject.Proofs.Console.Accounting
import RootObject.Proofs.Input.Halting
import RootObject.Proofs.Input.Reads

/-!
How far lines and tokens reach into the source. A line and a token are put together from a stream's own
reads, so they read as often as these do (`lineOf_reads`, `tokenOf_reads`) and halt where these do: looking
for the line end that is to be consumed reads nothing, since it is pushed back by then
(`lineOf_halts`). A console does nothing else with its stream, whatever its sink does (`Performs`).
-/

namespace RootObject

namespace Console

open RootObject.Action

/-! ### Lines and tokens -/

/-- A line of which no line end is missing is what stands before the next. -/
theorem lineOf_keep : lineOf .keep = Stream.readUntil isLineEnd := by
  simp [lineOf]

/-- A line ends, and is logged, as the text up to its end: taking that end cannot fail, and has nothing to
tell. -/
theorem lineOf_tells (terminator : LineTerminator) (stream : Stream) :
    (lineOf terminator stream).ending = (Stream.readUntil isLineEnd stream).ending ∧
      (lineOf terminator stream).state.atEnd = (Stream.readUntil isLineEnd stream).state.atEnd ∧
      (lineOf terminator stream).events = (Stream.readUntil isLineEnd stream).events := by
  cases read : (Stream.readUntil isLineEnd stream).ending with
  | failed error =>
      have whole : lineOf terminator stream = _ := bind_apply _ _ _
      simp only [whole, Outcome.andThen, read, and_self]
  | aborted message =>
      have whole : lineOf terminator stream = _ := bind_apply _ _ _
      simp only [whole, Outcome.andThen, read, and_self]
  | returned line =>
      have rests := stream.readUntil_rests isLineEnd read
      have whole : lineOf terminator stream = _ := bind_of_returned read
      rw [whole]
      generalize (Stream.readUntil isLineEnd stream).state = behind at rests ⊢
      cases terminator with
      | keep => exact ⟨rfl, rfl, List.append_nil _⟩
      | consume =>
          have seen : Stream.peek.mapError ReadError.io behind =
              ⟨.returned behind.pushedBack, behind, []⟩ := by
            rw [Action.mapError, rests.peek_eq]
            rfl
          rw [if_pos rfl, bind_apply, seen]
          by_cases isEnd : behind.pushedBack = some 0x0A
          · have taken : Stream.nextByte.mapError ReadError.io behind =
                ⟨.returned (some 0x0A), { behind with pushedBack := none }, []⟩ := by
              rw [Action.mapError, Stream.nextByte_of_pushed isEnd]
              rfl
            simp only [Outcome.andThen, if_pos isEnd, bind_apply, taken]
            exact ⟨rfl, rfl, List.append_nil _⟩
          · simp only [Outcome.andThen, if_neg isEnd]
            exact ⟨rfl, rfl, List.append_nil _⟩

theorem lineOf_settles (terminator : LineTerminator) (stream : Stream) :
    ∃ segment, (Demand.line terminator).Settles stream.arrivals (lineOf terminator stream).ending
      segment (lineOf terminator stream).state.arrivals := by
  rcases Stream.readUntil_settles isLineEnd stream with read |
    ⟨segment, requested, accepted, ending, ahead⟩
  · obtain ⟨segment, fares⟩ := (lineOf_of_readUntil terminator read).fares
    exact ⟨segment, .fares fares⟩
  · have ends : Ends (Stream.readUntil isLineEnd) stream (.failed (.exhausted requested)) fun rest =>
        rest = (Stream.readUntil isLineEnd stream).state := ⟨ending, rfl⟩
    obtain ⟨ended, left⟩ : Ends (lineOf terminator) stream (.failed (.exhausted requested)) fun rest =>
        rest = (Stream.readUntil isLineEnd stream).state := ends.bind_failed
    refine ⟨segment, ?_⟩
    rw [ended, left, ahead]
    cases terminator <;> exact Demand.Settles.exhausted accepted

theorem tokenOf_settles (stream : Stream) :
    ∃ segment, Demand.token.Settles stream.arrivals (tokenOf stream).ending segment
      (tokenOf stream).state.arrivals := by
  have of_meets (meets : stream.Meets Demand.token (tokenOf stream)) :
      ∃ segment, Demand.token.Settles stream.arrivals (tokenOf stream).ending segment
        (tokenOf stream).state.arrivals := meets.fares.imp fun _ fares => .fares fares
  cases ended : (Stream.skipWhile isSpace stream).ending with
  | failed error => exact of_meets (tokenOf_of_readUntil (by simp [ended]))
  | aborted message => exact of_meets (tokenOf_of_readUntil (by simp [ended]))
  | returned n =>
      have skips : Ends ((Stream.skipWhile isSpace).mapError ReadError.io) stream (.returned n)
          fun rest => rest = (Stream.skipWhile isSpace stream).state := by
        constructor
        · simp [Action.mapError, Outcome.mapError, ended, Ending.mapError]
        · rfl
      rcases Stream.readUntil_settles isSpace (Stream.skipWhile isSpace stream).state with read |
        ⟨word, requested, solid, ending, ahead⟩
      · exact of_meets (tokenOf_of_readUntil fun _ _ => read)
      -- Memory is refused behind the blanks, which are gone as well.
      · obtain ⟨⟨blanks, fares⟩, -⟩ := Stream.skipWhile_meets isSpace stream
        have blank : blanks.all isSpace = true := fares.accepts_segment rfl
        rw [skips.ending] at fares
        have whole : stream.arrivals = Arrival.ofBytes (blanks ++ word) ++
            (Stream.readUntil isSpace (Stream.skipWhile isSpace stream).state).state.arrivals := by
          rw [fares.eq_append_of_returned, Arrival.ofBytes, Arrival.ofBytes, List.map_append,
            List.append_assoc]
          exact congrArg _ ahead
        obtain ⟨ended, left⟩ : Ends tokenOf stream (.failed (.exhausted requested)) fun rest =>
            rest = (Stream.readUntil isSpace (Stream.skipWhile isSpace stream).state).state := by
          refine skips.bind fun rest same => ?_
          subst same
          exact ⟨ending, rfl⟩
        refine ⟨blanks ++ word, ?_⟩
        rw [ended, left, whole]
        exact .exhausted (Demand.accepts_blanks_append blank solid).1

/-! ### Where they halt -/

/-- A line halts where the text up to its end does, and takes that end where it is to be consumed. -/
theorem lineOf_halts (terminator : LineTerminator) (stream : Stream) {line : String}
    (returned : (lineOf terminator stream).ending = .returned line) :
    stream.Halts (Demand.line terminator) line (lineOf terminator stream).state := by
  cases terminator with
  | keep =>
      rw [lineOf_keep] at returned ⊢
      exact stream.readUntil_halts isLineEnd returned
  | consume =>
      obtain ⟨text, read, -⟩ := exists_of_bind_returned returned
      have ends : Ends (Stream.readUntil isLineEnd) stream (.returned text) fun rest =>
          rest = (Stream.readUntil isLineEnd stream).state := ⟨read, rfl⟩
      have halts := stream.readUntil_halts isLineEnd read
      generalize (Stream.readUntil isLineEnd stream).state = behind at ends halts
      cases halts with
      | @ended bytes _ accepted coming unpushed atEnd =>
          have seen := Stream.peek_at_end unpushed atEnd
          obtain ⟨ending, left⟩ : Ends (lineOf .consume) stream (.returned (Utf8.decode bytes))
              fun rest => rest = behind := by
            refine ends.bind fun rest same => ?_
            subst same
            exact ((Ends.of_eq seen).mapError ReadError.io).bind fun rest same => .pure same
          rw [left]
          cases returned.symm.trans ending
          exact .ended accepted coming unpushed atEnd
      | @stopped bytes b later _ accepted stops coming pushed atEnd =>
          have isEnd : b = 0x0A := by simpa [isLineEnd] using Demand.unwanted_of_stops accepted stops
          subst isEnd
          have seen := Stream.peek_of_pushed pushed
          have taken := Stream.nextByte_of_pushed pushed
          obtain ⟨ending, left⟩ : Ends (lineOf .consume) stream (.returned (Utf8.decode bytes))
              fun rest => rest = { behind with pushedBack := none } := by
            refine ends.bind fun rest same => ?_
            subst same
            refine ((Ends.of_eq seen).mapError ReadError.io).bind fun rest same => ?_
            subst same
            exact ((Ends.of_eq taken).mapError ReadError.io).bind fun rest same => .pure same
          rw [left]
          cases returned.symm.trans ending
          exact .stopped accepted stops coming rfl atEnd

/-- A token halts where the text behind the blanks does. -/
theorem tokenOf_halts (stream : Stream) {token : String}
    (returned : (tokenOf stream).ending = .returned token) :
    stream.Halts Demand.token token (tokenOf stream).state := by
  obtain ⟨segment, settles⟩ := tokenOf_settles stream
  rw [returned] at settles
  obtain ⟨n, skipped, read⟩ := exists_of_bind_returned returned
  change (Stream.readUntil isSpace (Stream.skipWhile isSpace stream).state).ending = _ at read
  have blanks : stream.Rests (Stream.skipWhile isSpace stream).state :=
    Stream.skip_rests isSpace 0 [] stream (Ending.mapError_eq_returned skipped)
  have left : (tokenOf stream).state =
      (Stream.readUntil isSpace (Stream.skipWhile isSpace stream).state).state := by
    rw [show tokenOf stream = _ from bind_of_returned skipped]
    rfl
  generalize (Stream.skipWhile isSpace stream).state = behind at read blanks left
  have word := behind.readUntil_rests isSpace read
  refine .of_rests rfl settles.fares_of_returned (left ▸ blanks.trans word fun empty => ?_)
  rcases behind.readUntil_settles isSpace with meets | ⟨_, _, _, refused, _⟩
  · obtain ⟨_, fares⟩ := meets.fares
    rw [read] at fares
    have whole := fares.eq_append_of_returned
    rw [empty] at whole
    exact (List.append_eq_nil_iff.mp whole.symm).2
  · cases read.symm.trans refused

/-! ### Line ends that stay -/

/-- Where a line has been read that leaves its end: before that end, or at the end of the stream. -/
structure BeforeLineEnd (stream : Stream) : Prop where
  halted : stream.pushedBack = some 0x0A ∨ stream.pushedBack = none ∧ stream.atEnd = true
  /-- A buffer is granted, as it was to that line. -/
  granted : stream.capacity < Buffer.limit

theorem beforeLineEnd_of_lineOf {stream : Stream} {line : String}
    (returned : (lineOf .keep stream).ending = .returned line) :
    BeforeLineEnd (lineOf .keep stream).state := by
  obtain ⟨n, reads⟩ := Stream.readUntil_reads isLineEnd stream
  have halts := lineOf_halts .keep stream returned
  rw [lineOf_keep] at returned halts ⊢
  constructor
  case halted =>
      generalize (Stream.readUntil isLineEnd stream).state = rest at halts
      cases halts with
      | ended accepted coming unpushed atEnd => exact .inr ⟨unpushed, atEnd⟩
      | @stopped _ b _ _ accepted stops coming pushed atEnd =>
          have isEnd : b = 0x0A := by simpa [isLineEnd] using Demand.unwanted_of_stops accepted stops
          subst isEnd
          exact .inl pushed
  case granted =>
      rw [reads.capacity]
      unfold Stream.readUntil Buffer.reserve? at returned
      split at returned
      · cases returned
      · next reserved => exact (Option.isSome_ite.mp (Option.isSome_of_eq_some reserved))

/-- Before a line end the next line is empty, and the stream stays as it is. -/
theorem lineOf_of_beforeLineEnd {stream : Stream} (before : BeforeLineEnd stream) :
    lineOf .keep stream = ⟨.returned "", stream, []⟩ := by
  rw [lineOf_keep, Stream.readUntil, Buffer.reserve?_of_lt before.granted]
  simp only
  rw [Stream.gather_eq_bind, bind_apply, Action.mapError]
  rcases before.halted with pushed | ⟨unpushed, ended⟩
  · rw [Stream.nextByte_of_pushed pushed]
    obtain ⟨source, _, atEnd, capacity, positive⟩ := stream
    cases pushed
    rfl
  · rw [Stream.nextByte_at_end unpushed ended]
    rfl

/-! ### What they read -/

theorem lineOf_reads (terminator : LineTerminator) (stream : Stream) :
    ∃ n, Stream.Reads ReadError.io (lineOf terminator) stream n := by
  have told {α : Type} {action : Action Stream IoError α} {stream : Stream}
      (reads : ∃ n, Stream.Reads id action stream n) :
      ∃ n, Stream.Reads ReadError.io (action.mapError ReadError.io) stream n :=
    reads.imp fun n reads => reads.mapError ReadError.io
  refine Stream.Reads.bind (Stream.readUntil_reads isLineEnd stream) fun line _ => ?_
  cases terminator with
  | keep => exact ⟨0, .pure line⟩
  | consume =>
      refine Stream.Reads.bind (told (Stream.peek_reads _)) fun next _ => ?_
      by_cases isEnd : next = some 0x0A
      · rw [if_pos isEnd]
        exact Stream.Reads.bind (told (Stream.nextByte_reads _)) fun _ _ => ⟨0, .pure line⟩
      · rw [if_neg isEnd]
        exact ⟨0, .pure line⟩

theorem tokenOf_reads (stream : Stream) :
    ∃ n, Stream.Reads ReadError.io tokenOf stream n := by
  obtain ⟨n, skips⟩ := Stream.skipWhile_reads isSpace stream
  exact Stream.Reads.bind ⟨n, skips.mapError ReadError.io⟩ fun _ _ => Stream.readUntil_reads isSpace _

/-! ### What they take -/

theorem lineOf_spends (terminator : LineTerminator) : Stream.Spends (lineOf terminator) := by
  refine (Stream.readUntil_spends isLineEnd).bind fun line => ?_
  cases terminator with
  | keep => exact .pure line
  | consume =>
      refine (Stream.peek_spends.mapError ReadError.io).bind fun next => ?_
      by_cases isEnd : next = some 0x0A
      · rw [if_pos isEnd]
        exact (Stream.nextByte_spends.mapError ReadError.io).bind fun _ => .pure line
      · rw [if_neg isEnd]
        exact .pure line

theorem tokenOf_spends : Stream.Spends tokenOf :=
  ((Stream.skipWhile_spends isSpace).mapError ReadError.io).bind fun _ =>
    Stream.readUntil_spends isSpace

/-! ### Reads at a console -/

/-- The error of the flush before a read, where that fails. -/
def Settings.refusal? (settings : Settings) (sink : Sink) : Option IoError :=
  if settings.flushBeforeInput then
    match sink.flush.1 with
    | .ok () => none
    | .error error => some error
  else none

/-- The sink behind the flush before a read. -/
def Settings.flushed (settings : Settings) (sink : Sink) : Sink :=
  if settings.flushBeforeInput then sink.flush.2 else sink

theorem Settings.refusal?_of_healthy (settings : Settings) {sink : Sink} (healthy : sink.Healthy) :
    settings.refusal? sink = none := by
  obtain ⟨flushed, succeeds, -⟩ := Sink.flush_of_healthy healthy
  simp [refusal?, succeeds]

theorem prepareInput_apply (settings : Settings) (stream : Stream) (sink : Sink) :
    prepareInput ⟨settings, stream, sink⟩ =
      ⟨match settings.refusal? sink with
        | none => .returned ()
        | some error => .failed (.io error),
        ⟨settings, stream, settings.flushed sink⟩, []⟩ := by
  unfold prepareInput Settings.refusal? Settings.flushed
  rw [bind_apply]
  cases wanted : settings.flushBeforeInput with
  | false => simp [Action.get, Outcome.andThen, wanted, pure_apply]
  | true =>
      cases flushed : sink.flush with
      | mk result left =>
          cases result <;>
            simp [Action.get, Outcome.andThen, wanted, flush, onSink, flushed, Action.mapError,
              Outcome.mapError, Ending.mapError]

/-- At a console with these settings and this sink a read does this to the stream, whatever the stream
is, and leaves this sink. -/
def Performs (read : Action Console ReadError String) (settings : Settings) (sink left : Sink)
    (action : Action Stream ReadError String) : Prop :=
  ∀ stream, read ⟨settings, stream, sink⟩ =
    ⟨(action stream).ending, ⟨settings, (action stream).state, left⟩, (action stream).events⟩

/-- The text that is read, and an event that tells of it. -/
def logging (event : String → Log.Event) (action : Action Stream ReadError String) :
    Action Stream ReadError String := do
  let text ← action
  Action.emit (event text)
  return text

theorem logging_apply (event : String → Log.Event) (action : Action Stream ReadError String)
    (stream : Stream) :
    (logging event action stream).ending = (action stream).ending ∧
      (logging event action stream).state = (action stream).state := by
  unfold logging
  rw [bind_apply]
  cases action stream with
  | mk ending rest events => cases ending <;> exact ⟨rfl, rfl⟩

/-- A flush that fails is all there is of a read. -/
def prepared? (settings : Settings) (sink : Sink) (action : Action Stream ReadError String) :
    Action Stream ReadError String :=
  match settings.refusal? sink with
  | none => action
  | some error => Action.fail (.io error)

theorem readLine_performs (settings : Settings) (sink : Sink) :
    Performs readLine settings sink (settings.flushed sink) (prepared? settings sink
      (logging (fun line => .lineRead line.utf8ByteSize) (lineOf settings.lineTerminator))) := by
  intro stream
  unfold readLine prepared?
  rw [bind_apply, prepareInput_apply]
  cases settings.refusal? sink with
  | some error => rfl
  | none =>
      simp only [Outcome.andThen, Outcome.after_nil, bind_apply, Action.get, onStream, Action.within,
        logging]
      cases lineOf settings.lineTerminator stream with
      | mk ending rest events => cases ending <;> rfl

theorem readToken_performs (settings : Settings) (sink : Sink) :
    Performs readToken settings sink (settings.flushed sink)
      (prepared? settings sink (logging .tokenRead tokenOf)) := by
  intro stream
  unfold readToken prepared?
  rw [bind_apply, prepareInput_apply]
  cases settings.refusal? sink with
  | some error => rfl
  | none =>
      simp only [Outcome.andThen, Outcome.after_nil, bind_apply, onStream, Action.within, logging]
      cases tokenOf stream with
      | mk ending rest events => cases ending <;> rfl

theorem reads_logging (event : String → Log.Event) {action : Action Stream ReadError String}
    {stream : Stream} {n : Nat} (reads : Stream.Reads ReadError.io action stream n) :
    Stream.Reads ReadError.io (logging event action) stream n := by
  cases ended : (action stream).ending with
  | returned text =>
      have told : Stream.Reads ReadError.io (Action.emit (event text) >>= fun _ => pure text)
          (action stream).state (0 + 0) :=
        Stream.Reads.bind_of_returned (.emit (event text)) rfl (.pure text)
      have whole := @Stream.Reads.bind_of_returned _ _ _ _ _ _ _
        (fun text => Action.emit (event text) >>= fun _ => pure text) _ _ reads ended told
      exact whole
  | failed error => exact reads.bind_of_not_returned (by simp [ended])
  | aborted message => exact reads.bind_of_not_returned (by simp [ended])

theorem logging_reads (event : String → Log.Event) {action : Action Stream ReadError String}
    {stream : Stream} (reads : ∃ n, Stream.Reads ReadError.io action stream n) :
    ∃ n, Stream.Reads ReadError.io (logging event action) stream n :=
  reads.imp fun _ reads => reads_logging event reads

theorem prepared?_reads (settings : Settings) (sink : Sink) {action : Action Stream ReadError String}
    {stream : Stream} (reads : ∃ n, Stream.Reads ReadError.io action stream n) :
    ∃ n, Stream.Reads ReadError.io (prepared? settings sink action) stream n := by
  unfold prepared?
  cases settings.refusal? sink with
  | none => exact reads
  | some error => exact ⟨0, .fail (ReadError.io error)⟩

end Console
end RootObject
