import RootObject.Proofs.Console.Reading
import RootObject.Proofs.Input.Demand

/-!
What consoles ask of their streams. A line and a token are demands like those of a stream's own reads:
a line runs up to the next line end, which `consume` takes as well, and a token is blanks with what
stands behind them up to the next blank. Taking the line end asks for nothing that is not there: it
comes after the line has been read, so no failure can hit it (`lineOf_consume_at_line_end`).
-/

namespace RootObject

namespace Demand

def line : LineTerminator → Demand String
  | .keep => readUntil isLineEnd
  | .consume => (readUntil isLineEnd).andLast

/-- Blanks, and the bytes behind them up to the next blank. -/
def token : Demand String where
  accepts bytes := (bytes.dropWhile isSpace).all (!isSpace ·)
  accepts_of_append bytes later all := by
    rw [List.dropWhile_append] at all
    split at all
    · next blank =>
        rw [List.isEmpty_iff.mp blank]
        rfl
    · rw [List.all_append, Bool.and_eq_true] at all
      exact all.1
  takesLast := false
  value bytes _ := Utf8.decode (bytes.dropWhile isSpace)

theorem dropWhile_blanks {blanks : List UInt8} (blank : blanks.all isSpace = true)
    (word : List UInt8) (begins : ∀ b, word.head? = some b → isSpace b = false) :
    (blanks ++ word).dropWhile isSpace = word := by
  rw [List.dropWhile_append_of_pos (List.all_eq_true.mp blank)]
  cases word with
  | nil => rfl
  | cons b rest => rw [List.dropWhile_cons_of_neg (by simp [begins b rfl])]

theorem accepts_blanks {blanks : List UInt8} (blank : blanks.all isSpace = true) :
    token.accepts blanks = true := by
  have dropped := dropWhile_blanks blank [] (fun b head => by cases head)
  rw [List.append_nil] at dropped
  change (blanks.dropWhile isSpace).all (!isSpace ·) = true
  rw [dropped, List.all_nil]

/-- Blanks and a word behind them are accepted as a token, which is that word. -/
theorem accepts_blanks_append {blanks word : List UInt8} (blank : blanks.all isSpace = true)
    (solid : word.all (!isSpace ·) = true) :
    token.accepts (blanks ++ word) = true ∧ (blanks ++ word).dropWhile isSpace = word := by
  have dropped := dropWhile_blanks blank word fun b head => by
    have among := List.mem_of_mem_head? head
    simpa using List.all_eq_true.mp solid b among
  refine ⟨?_, dropped⟩
  change ((blanks ++ word).dropWhile isSpace).all (!isSpace ·) = true
  rw [dropped, solid]

/-- A token is read by reading up to the next blank behind the blanks in front. -/
theorem token_fares {blanks word : List UInt8} {later after : List Arrival}
    {ending : Ending ReadError String} (blank : blanks.all isSpace = true)
    (begins : ∀ b, later.head? = some (.byte b) → isSpace b = false)
    (fares : (readUntil isSpace).Fares later ending word after) :
    token.Fares (Arrival.ofBytes blanks ++ later) ending (blanks ++ word) after := by
  have joined : ∀ bytes, Arrival.ofBytes blanks ++ Arrival.ofBytes bytes =
      Arrival.ofBytes (blanks ++ bytes) := fun bytes => (List.map_append).symm
  cases fares with
  | ended accepted =>
      obtain ⟨whole, dropped⟩ := accepts_blanks_append blank accepted
      have read := Fares.ended whole
      change token.Fares _ (.returned (Utf8.decode _)) _ _ at read
      rwa [dropped, ← joined] at read
  | @stopped _ b rest accepted stops leaves =>
      obtain ⟨whole, dropped⟩ := accepts_blanks_append blank accepted
      have space : isSpace b = true := by simpa using unwanted_of_stops accepted stops
      -- What stands right behind the blanks is no blank, so the token is not stopped there.
      have refused : token.accepts (blanks ++ word ++ [b]) = false := by
        cases word with
        | nil => exact absurd space (by simp [begins b rfl])
        | cons first word =>
            have dropped := dropWhile_blanks blank (first :: word ++ [b]) fun c head =>
              begins c (congrArg (Option.map Arrival.byte) head)
            change ((blanks ++ (first :: word) ++ [b]).dropWhile isSpace).all (!isSpace ·) = false
            rw [List.append_assoc, dropped, List.all_append]
            simp [space]
      have read := @Fares.stopped _ token _ b rest whole refused rfl
      change token.Fares _ (.returned (Utf8.decode _)) _ _ at read
      rwa [dropped, ← joined, List.append_assoc] at read
  | stoppedBehind accepted stops takes => cases takes
  | failed accepted =>
      rw [← List.append_assoc, joined]
      exact .failed (accepts_blanks_append blank accepted).1
  | aborted accepted =>
      rw [← List.append_assoc, joined]
      exact .aborted (accepts_blanks_append blank accepted).1

end Demand

namespace Stream

/-- No request for the buffer of a token reaches the limit. It is asked for when the blanks in front are
skipped. -/
def GrantsToken (stream : Stream) : Prop :=
  ∀ n, (skipWhile isSpace stream).ending = .returned n →
    (skipWhile isSpace stream).state.GrantsUntil isSpace

end Stream

namespace Console

open RootObject.Action

/-- Behind the last line there is nothing to consume. -/
theorem lineOf_consume_at_end {stream : Stream} {line : String}
    (ends : Ends (Stream.readUntil isLineEnd) stream (.returned line) fun rest =>
      rest.arrivals = [] ∧ rest.capacity = stream.capacity) :
    Ends (lineOf .consume) stream (.returned line) fun rest =>
      rest.arrivals = [] ∧ rest.capacity = stream.capacity := by
  refine ends.bind fun rest left => ?_
  obtain ⟨coming, kept⟩ := left
  have nothing : Demand.peek.Fares rest.arrivals (.returned none) [] [] := by
    rw [coming]
    exact @Demand.Fares.ended _ _ [] rfl
  refine ((Stream.peek_meets rest).ends nothing).bind fun rest' left => ?_
  obtain ⟨coming', kept'⟩ := left
  exact .pure ⟨coming', kept'.trans kept⟩

/-- A line end that stands next is taken, whatever comes behind it. -/
theorem lineOf_consume_at_line_end {stream : Stream} {line : String} {later : List Arrival}
    (ends : Ends (Stream.readUntil isLineEnd) stream (.returned line) fun rest =>
      rest.arrivals = .byte 0x0A :: later ∧ rest.capacity = stream.capacity) :
    Ends (lineOf .consume) stream (.returned line) fun rest =>
      rest.arrivals = later ∧ rest.capacity = stream.capacity := by
  refine ends.bind fun rest left => ?_
  obtain ⟨coming, kept⟩ := left
  have seen : Demand.peek.Fares rest.arrivals (.returned (some 0x0A)) [] (.byte 0x0A :: later) := by
    rw [coming]
    exact @Demand.Fares.stopped _ _ [] _ _ rfl rfl rfl
  refine ((Stream.peek_meets rest).ends seen).bind fun rest' left => ?_
  obtain ⟨coming', kept'⟩ := left
  have taken : Demand.nextByte.Fares rest'.arrivals (.returned (some 0x0A)) [0x0A] later := by
    rw [coming']
    exact @Demand.Fares.stoppedBehind _ _ [] _ _ rfl rfl rfl
  refine ((Stream.nextByte_meets rest').ends taken).bind fun rest'' left => ?_
  obtain ⟨coming'', kept''⟩ := left
  exact .pure ⟨coming'', kept''.trans (kept'.trans kept)⟩

/-- A line takes what it asks for where the text up to its end does. -/
theorem lineOf_of_readUntil (terminator : LineTerminator) {stream : Stream}
    (read : stream.Meets (Demand.readUntil isLineEnd) (Stream.readUntil isLineEnd stream)) :
    stream.Meets (Demand.line terminator) (lineOf terminator stream) := by
  cases terminator with
  | keep =>
      have same : lineOf .keep = Stream.readUntil isLineEnd := by simp [lineOf]
      rw [same]
      exact read
  | consume =>
      obtain ⟨segment, fares⟩ := read.fares
      have ends := read.ends fares
      generalize (Stream.readUntil isLineEnd stream).ending = ending at fares ends
      generalize (Stream.readUntil isLineEnd stream).state.arrivals = after at fares ends
      suffices reached : ∃ ending segment after, (Demand.line .consume).Fares stream.arrivals ending
          segment after ∧ Ends (lineOf .consume) stream ending fun rest =>
            rest.arrivals = after ∧ rest.capacity = stream.capacity by
        obtain ⟨ending, segment, after, fares, ends⟩ := reached
        exact .of_ends fares ends
      generalize stream.arrivals = before at fares ⊢
      cases fares with
      | ended accepted => exact ⟨_, _, _, .ended accepted, lineOf_consume_at_end ends⟩
      | @stopped _ b later accepted stops leaves =>
          have isEnd : b = 0x0A := by simpa [isLineEnd] using Demand.unwanted_of_stops accepted stops
          subst isEnd
          exact ⟨_, _, _, .stoppedBehind accepted stops rfl, lineOf_consume_at_line_end ends⟩
      | stoppedBehind accepted stops takes => cases takes
      | failed accepted => exact ⟨_, _, _, .failed accepted, ends.bind_failed⟩
      | aborted accepted => exact ⟨_, _, _, .aborted accepted, ends.bind_aborted⟩

theorem lineOf_meets (terminator : LineTerminator) {stream : Stream}
    (granted : stream.GrantsUntil isLineEnd) :
    stream.Meets (Demand.line terminator) (lineOf terminator stream) :=
  lineOf_of_readUntil terminator (Stream.readUntil_meets isLineEnd granted)

/-- A token takes what it asks for where the text behind the blanks does. -/
theorem tokenOf_of_readUntil {stream : Stream}
    (read : ∀ n, (Stream.skipWhile isSpace stream).ending = .returned n →
      (Stream.skipWhile isSpace stream).state.Meets (Demand.readUntil isSpace)
        (Stream.readUntil isSpace (Stream.skipWhile isSpace stream).state)) :
    stream.Meets Demand.token (tokenOf stream) := by
  obtain ⟨⟨blanks, fares⟩, kept⟩ := Stream.skipWhile_meets isSpace stream
  have blank : blanks.all isSpace = true := fares.accepts_segment rfl
  unfold tokenOf
  rw [bind_apply]
  unfold Action.mapError Outcome.mapError at fares kept ⊢
  cases skipped : Stream.skipWhile isSpace stream with
  | mk ending rest events =>
      rw [skipped] at fares kept read
      cases ending with
      | returned n =>
          obtain ⟨⟨word, fares'⟩, kept'⟩ := read n rfl
          refine ⟨⟨blanks ++ word, ?_⟩, kept'.trans kept⟩
          rw [fares.eq_append_of_returned]
          exact Demand.token_fares blank fares.head?_of_run fares'
      | failed error =>
          refine ⟨⟨blanks, ?_⟩, kept⟩
          rw [fares.eq_append_of_failed]
          exact .failed (Demand.accepts_blanks blank)
      | aborted message =>
          refine ⟨⟨blanks, ?_⟩, kept⟩
          rw [fares.eq_append_of_aborted]
          exact .aborted (Demand.accepts_blanks blank)

theorem tokenOf_meets {stream : Stream} (granted : stream.GrantsToken) :
    stream.Meets Demand.token (tokenOf stream) :=
  tokenOf_of_readUntil fun n skipped => Stream.readUntil_meets isSpace (granted n skipped)

/-! ### Reads at a console -/

/-- The sink as a read leaves it. -/
def prepared (console : Console) : Sink :=
  if console.settings.flushBeforeInput then console.sink.flush.2 else console.sink

theorem prepareInput_eq {console : Console} (healthy : console.sink.Healthy) :
    prepareInput console = ⟨.returned (), { console with sink := console.prepared }, []⟩ := by
  obtain ⟨flushed, succeeds, -⟩ := Sink.flush_of_healthy healthy
  unfold prepareInput prepared
  rw [bind_apply]
  cases wanted : console.settings.flushBeforeInput with
  | false => simp [Action.get, Outcome.andThen, wanted, pure_apply]
  | true =>
      simp [Action.get, Outcome.andThen, wanted, flush, onSink, succeeds, Action.mapError,
        Outcome.mapError, Ending.mapError]

/-- What becomes of a console when an action of its stream is all that a read does with it. -/
structure ReadsBy (console : Console) (outcome : Outcome Stream ReadError String)
    (whole : Outcome Console ReadError String) : Prop where
  ending : whole.ending = outcome.ending
  state : whole.state = { console with stream := outcome.state, sink := console.prepared }

theorem readLine_readsBy {console : Console} (healthy : console.sink.Healthy) :
    console.ReadsBy (lineOf console.settings.lineTerminator console.stream) (readLine console) := by
  unfold readLine
  rw [bind_apply, prepareInput_eq healthy]
  simp only [Outcome.andThen, Outcome.after_nil, bind_apply, Action.get, onStream, Action.within]
  cases lineOf console.settings.lineTerminator console.stream with
  | mk ending rest events => cases ending <;> exact ⟨rfl, rfl⟩

theorem readToken_readsBy {console : Console} (healthy : console.sink.Healthy) :
    console.ReadsBy (tokenOf console.stream) (readToken console) := by
  unfold readToken
  rw [bind_apply, prepareInput_eq healthy]
  simp only [Outcome.andThen, Outcome.after_nil, bind_apply, onStream, Action.within]
  cases tokenOf console.stream with
  | mk ending rest events => cases ending <;> exact ⟨rfl, rfl⟩

end Console
end RootObject
