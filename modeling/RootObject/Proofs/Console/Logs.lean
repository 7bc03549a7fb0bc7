import RootObject.Proofs.Console.Gate
import RootObject.Proofs.Console.Pulls

/-!
What reads log. A scan logs the growths of its buffer and then, if it is the first to come upon the end of
the stream, that end (`Stream.Sights`): behind the end no byte is left to make a buffer grow, and whatever
looks for the next byte again finds it pushed back or has the end behind it. A line or a token is logged
behind that where it has been read, and a value where it has been parsed (`Base.call_logs`).
-/

namespace RootObject

open Access (Reached)

/-- What is logged of a value, where one was returned. -/
def Ending.logged {ε α : Type} (event : α → Log.Event) : Ending ε α → List Log.Event
  | .returned value => [event value]
  | .failed _ | .aborted _ => []

theorem Ending.logged_mapError {ε ε' α : Type} (event : α → Log.Event) (ending : Ending ε α) (f : ε → ε') :
    (ending.mapError f).logged event = ending.logged event := by
  cases ending <;> rfl

/-- The event tells that a buffer was made larger. -/
def Log.Event.isGrowth : Log.Event → Bool
  | .bufferGrown .. => true
  | _ => false

namespace Stream

/-- The end of the stream is logged where it has come into sight. -/
def sighted (stream rest : Stream) : List Log.Event :=
  if stream.atEnd = false ∧ rest.atEnd = true then [.endOfStream] else []

/-- The action that left the stream like this has logged growths, and then the end if that has come into
sight. -/
def Sights (stream rest : Stream) (logged : List Log.Event) : Prop :=
  ∃ grown, (∀ event ∈ grown, event.isGrowth) ∧ logged = grown ++ stream.sighted rest

variable {stream mid rest : Stream} {logged logged' : List Log.Event}

@[simp]
theorem sighted_self (stream : Stream) : stream.sighted stream = [] := by
  simp [sighted]

theorem sighted_of_atEnd (same : rest.atEnd = stream.atEnd) : stream.sighted rest = [] := by
  simp [sighted, same]

theorem sighted_congr (same : mid.atEnd = stream.atEnd) : mid.sighted rest = stream.sighted rest := by
  rw [sighted, sighted, same]

theorem Sights.silent (same : rest.atEnd = stream.atEnd) : Sights stream rest [] :=
  ⟨[], by simp, (sighted_of_atEnd same).symm⟩

/-! ### Scans -/

theorem sighted_of_nextByte {ending : Ending IoError (Option UInt8)}
    (delivered : nextByte stream = ⟨ending, rest, logged⟩) : logged = stream.sighted rest := by
  unfold nextByte at delivered
  split at delivered
  · cases delivered
    exact (sighted_of_atEnd rfl).symm
  · by_cases ended : stream.atEnd = true
    · rw [if_pos ended] at delivered
      cases delivered
      exact (sighted_self stream).symm
    · rw [if_neg ended] at delivered
      split at delivered <;> cases delivered <;> simp [sighted, ended]

/-- Where a scan is over, the end is all that is logged. -/
theorem Concludes.events_eq {ε α : Type} {wanted : UInt8 → Bool} {tell : IoError → ε} {value : α}
    {outcome : Outcome Stream ε α} (concludes : Concludes wanted tell value logged stream outcome) :
    outcome.events = logged ++ stream.sighted outcome.state := by
  cases concludes with
  | @stopped b rest delivered unwanted =>
      change logged = logged ++ stream.sighted rest
      rw [← sighted_of_nextByte delivered, List.append_nil]
  | ended delivered => rw [sighted_of_nextByte delivered]
  | failed delivered => rw [← sighted_of_nextByte delivered, List.append_nil]
  | aborted delivered => rw [← sighted_of_nextByte delivered, List.append_nil]

namespace Gathering

variable {stop : UInt8 → Bool} {held next last : Gathering}

/-- A round that stores a byte logs a growth at most. -/
theorem Stores.grown (stores : held.Stores stop next) :
    ∃ grown, (∀ event ∈ grown, Log.Event.isGrowth event) ∧ next.logged = held.logged ++ grown := by
  cases stores with
  | @byte b rest events grown buffer delivered passed stored =>
      obtain rfl := silent_of_nextByte delivered (by simp)
      refine ⟨grown, ?_, by rw [List.append_nil]⟩
      cases Buffer.pushed_of_push stored with
      | within room => simp
      | grown full small => simp [Log.Event.isGrowth]

theorem grown_of_rounds (rounds : Relation.ReflTransGen (Stores stop) held last) :
    ∃ grown, (∀ event ∈ grown, Log.Event.isGrowth event) ∧ last.logged = held.logged ++ grown := by
  induction rounds with
  | refl => exact ⟨[], by simp, (List.append_nil _).symm⟩
  | tail _ stores ih =>
      obtain ⟨before, growths, same⟩ := ih
      obtain ⟨grown, more, behind⟩ := stores.grown
      refine ⟨before ++ grown, ?_, by rw [behind, same, List.append_assoc]⟩
      exact List.forall_mem_append.mpr ⟨growths, more⟩

/-- Taking the byte that memory is refused for logs nothing. -/
theorem Refuses.events_eq {outcome : Outcome Stream ReadError Buffer}
    (refuses : held.Refuses stop outcome) :
    outcome.events = held.logged ++ held.stream.sighted outcome.state := by
  cases refuses with
  | byte delivered passed refused => rw [← sighted_of_nextByte delivered, List.append_nil]

end Gathering

theorem gather_sights (stop : UInt8 → Bool) (buffer : Buffer) (logged : List Log.Event)
    (stream : Stream) : ∃ sights, Sights stream (gather stop buffer logged stream).state sights ∧
      (gather stop buffer logged stream).events = logged ++ sights := by
  obtain ⟨last, rounds, ends⟩ := Gathering.exists_last stop ⟨buffer, logged, stream⟩
  obtain ⟨bytes, passes, -⟩ := Gathering.passes_of_rounds rounds
  obtain ⟨grown, growths, told⟩ := Gathering.grown_of_rounds rounds
  refine ⟨_, ⟨grown, growths, rfl⟩, ?_⟩
  rw [← sighted_congr passes.atEnd, ← List.append_assoc, ← told]
  rcases ends with closes | refuses
  · exact closes.concludes.events_eq
  · exact refuses.events_eq

theorem readUntil_sights (stop : UInt8 → Bool) (stream : Stream) :
    Sights stream (readUntil stop stream).state (readUntil stop stream).events := by
  rcases readUntil_cases stop stream with read | read
  · rw [read]
    exact .silent rfl
  · obtain ⟨sights, told, whole⟩ := gather_sights stop ⟨#[], stream.capacity⟩ [] stream
    rw [List.nil_append] at whole
    rw [read, Outcome.map, whole]
    exact told

/-- Nothing grows while bytes are dropped. -/
theorem skip_sights (unwanted : UInt8 → Bool) (count : Nat) (logged : List Log.Event)
    (stream : Stream) : (skip unwanted count logged stream).events =
      logged ++ stream.sighted (skip unwanted count logged stream).state := by
  obtain ⟨bytes, mid, passes, concludes⟩ := skip_concludes unwanted count logged stream
  rw [concludes.events_eq, sighted_congr passes.atEnd]

/-! ### Behind a scan -/

/-- Behind the end there is nothing to gather. -/
theorem readUntil_at_end (stop : UInt8 → Bool) (unpushed : stream.pushedBack = none)
    (ended : stream.atEnd = true) :
    (readUntil stop stream).state = stream ∧ (readUntil stop stream).events = [] := by
  rcases readUntil_cases stop stream with read | read
  · rw [read]
    exact ⟨rfl, rfl⟩
  · rw [read]
    simp only [gather_eq_bind, Action.bind_apply, Action.mapError, nextByte_at_end unpushed ended]
    exact ⟨rfl, rfl⟩

end Stream

/-- The end has come into sight where a read has brought nothing. -/
theorem Access.Reached.sighted_eq {stream rest : Stream} {n : Nat} (reached : Reached stream n rest) :
    stream.sighted rest =
      if (stream.source.readings n).contains .nothing then [.endOfStream] else [] := by
  unfold Stream.sighted
  rw [reached.atEnd]
  cases ended : stream.atEnd with
  | true =>
      rw [reached.still ended]
      simp [Source.readings]
  | false => simp

namespace Console

open RootObject.Action
open RootObject.Stream (Sights sighted sighted_of_atEnd sighted_congr)

/-! ### Lines and tokens -/

theorem lineOf_sights (terminator : LineTerminator) (stream : Stream) :
    Sights stream (lineOf terminator stream).state (lineOf terminator stream).events := by
  obtain ⟨-, atEnd, events⟩ := lineOf_tells terminator stream
  obtain ⟨grown, growths, told⟩ := stream.readUntil_sights isLineEnd
  exact ⟨grown, growths, by rw [events, told, sighted, sighted, atEnd]⟩

theorem tokenOf_sights (stream : Stream) :
    Sights stream (tokenOf stream).state (tokenOf stream).events := by
  have skips := Stream.skip_sights isSpace 0 [] stream
  rw [List.nil_append] at skips
  cases ended : (Stream.skipWhile isSpace stream).ending with
  | failed error =>
      have whole : tokenOf stream = ⟨.failed (.io error), (Stream.skipWhile isSpace stream).state,
          (Stream.skipWhile isSpace stream).events⟩ := by
        rw [tokenOf, Action.bind_apply]
        simp [Outcome.andThen, Action.mapError, Outcome.mapError, ended, Ending.mapError]
      rw [whole]
      exact ⟨[], by simp, skips⟩
  | aborted message =>
      have whole : tokenOf stream = ⟨.aborted message, (Stream.skipWhile isSpace stream).state,
          (Stream.skipWhile isSpace stream).events⟩ := by
        rw [tokenOf, Action.bind_apply]
        simp [Outcome.andThen, Action.mapError, Outcome.mapError, ended, Ending.mapError]
      rw [whole]
      exact ⟨[], by simp, skips⟩
  | returned count =>
      have returned : ((Stream.skipWhile isSpace).mapError ReadError.io stream).ending =
          .returned count := congrArg (Ending.mapError ReadError.io) ended
      have whole : tokenOf stream = (Stream.readUntil isSpace (Stream.skipWhile isSpace stream).state).after
          (Stream.skipWhile isSpace stream).events := Action.bind_of_returned returned
      have rests := Stream.skip_rests isSpace 0 [] stream ended
      change Stream.Rests stream (Stream.skipWhile isSpace stream).state at rests
      rw [whole, Outcome.state_after, Outcome.events_after, Stream.skipWhile, skips, ← Stream.skipWhile]
      generalize (Stream.skipWhile isSpace stream).state = behind at rests ⊢
      -- The end is logged where it is first seen, and the word behind it is empty.
      rcases rests with ⟨-, same⟩ | ⟨unpushed, atEnd⟩
      · rw [sighted_of_atEnd same, List.nil_append]
        obtain ⟨grown, growths, told⟩ := behind.readUntil_sights isSpace
        exact ⟨grown, growths, by rw [told, sighted_congr same]⟩
      · obtain ⟨left, silent⟩ := Stream.readUntil_at_end isSpace unpushed atEnd
        rw [left, silent]
        exact ⟨[], by simp, by simp⟩

/-! ### Reads at a console -/

theorem events_logging (event : String → Log.Event) (action : Action Stream ReadError String)
    (stream : Stream) : (logging event action stream).events =
      (action stream).events ++ (action stream).ending.logged event := by
  unfold logging
  rw [bind_apply]
  cases action stream with
  | mk ending rest events => cases ending <;> simp [Outcome.andThen, Ending.logged, bind_apply, emit, pure_apply]

/-- What a read of the console has logged: growths, then the end of the stream if one of its reads of the
source is the first to bring nothing, and then what it has read, if it has. -/
def Logs (read : Action Console ReadError String) (event : String → Log.Event) : Prop :=
  ∀ console, ∃ n grown, Reached console.stream n (read console).state.stream ∧
    (∀ event ∈ grown, event.isGrowth) ∧
    (read console).events = grown ++
      (if (console.stream.source.readings n).contains .nothing then [.endOfStream] else []) ++
      (read console).ending.logged event

theorem logs_of_performs {read : Action Console ReadError String} {event : String → Log.Event}
    {action : Settings → Action Stream ReadError String}
    (performs : ∀ settings sink, Performs read settings sink (settings.flushed sink)
      (prepared? settings sink (logging event (action settings))))
    (reads : ∀ settings stream, ∃ n, Stream.Reads ReadError.io (action settings) stream n)
    (sights : ∀ settings stream, Sights stream (action settings stream).state
      (action settings stream).events) : Logs read event := by
  rintro ⟨settings, stream, sink⟩
  rw [performs settings sink stream]
  unfold prepared?
  cases settings.refusal? sink with
  | some error => exact ⟨0, [], .refl stream, by simp, by simp [Action.fail, Source.readings, Ending.logged]⟩
  | none =>
      obtain ⟨n, reads⟩ := reads settings stream
      obtain ⟨grown, growths, told⟩ := sights settings stream
      have reached := Reached.of_reads reads
      obtain ⟨ending, left⟩ := logging_apply event (action settings) stream
      refine ⟨n, grown, ?_, growths, ?_⟩
      · change Reached stream n (logging event (action settings) stream).state
        rw [left]
        exact reached
      · change (logging event (action settings) stream).events = _
        rw [events_logging, told, reached.sighted_eq, ← ending]

theorem readLine_logs : Logs readLine fun line => .lineRead line.utf8ByteSize :=
  logs_of_performs (fun settings sink => readLine_performs settings sink)
    (fun settings stream => lineOf_reads settings.lineTerminator stream)
    fun settings stream => lineOf_sights settings.lineTerminator stream

theorem readToken_logs : Logs readToken .tokenRead :=
  @logs_of_performs readToken .tokenRead (fun _ => tokenOf) readToken_performs (fun _ => tokenOf_reads)
    fun _ => tokenOf_sights

end Console

/-! ### The root class -/

namespace Base

/-- What is logged of a method's read, where that has succeeded: how many bytes the line that it returns
has, or the token. -/
def readEvents (console : Console) : (method : Method) → Ending Fault method.Reply → List Log.Event
  | .inputLine, ending => ending.logged fun line => .lineRead line.utf8ByteSize
  | .inputBool, _ | .inputInt32, _ => (Console.readToken console).ending.logged .tokenRead
  | .print, _ | .printBool, _ | .printInt32, _ => []

/-- What is logged of the value that a method has parsed, where it has. -/
def valueEvents : (method : Method) → Ending Fault method.Reply → List Log.Event
  | .inputBool, ending => ending.logged (.booleanParsed .inputBool)
  | .inputInt32, ending => ending.logged (.integerParsed .inputInt32)
  | .inputLine, _ | .print, _ | .printBool, _ | .printInt32, _ => []

/-- What follows on the word is logged behind it, and leaves the console as it is. -/
theorem inputLiteral_apply {α : Type} (method : Method) (expected : LiteralKind)
    (parse : String → Except LiteralError α) (parsed : α → Log.Event) (console : Console) :
    (inputLiteral method expected parse parsed console).state = (Console.readToken console).state ∧
      (inputLiteral method expected parse parsed console).events = (Console.readToken console).events ++
        (inputLiteral method expected parse parsed console).ending.logged parsed := by
  unfold inputLiteral
  rw [Action.bind_apply, readWord, Action.mapError]
  cases Console.readToken console with
  | mk ending left events =>
      cases ending with
      | returned token =>
          simp only [Outcome.mapError, Ending.mapError, Outcome.andThen]
          cases parse token with
          | ok value => exact ⟨rfl, rfl⟩
          | error error => exact ⟨rfl, rfl⟩
      | failed error => exact ⟨rfl, (List.append_nil _).symm⟩
      | aborted message => exact ⟨rfl, (List.append_nil _).symm⟩

/-- What a call of a method that reads logs, in order: growths of its buffer; the end of the stream, if
one of its reads of the source is the first to bring nothing; the line or the token, if it has been read;
and the value, if one is returned that was parsed. -/
def Logs (method : Method) (argument : method.Argument) (console : Console) : Prop :=
  ∃ n grown, Reached console.stream n (call method argument console).state.stream ∧
    (∀ event ∈ grown, event.isGrowth) ∧
    (call method argument console).events = grown ++
      (if (console.stream.source.readings n).contains .nothing then [.endOfStream] else []) ++
      readEvents console method (call method argument console).ending ++
      valueEvents method (call method argument console).ending

theorem call_logs {method : Method} (reads : ¬ method.Prints) (argument : method.Argument)
    (console : Console) : Logs method argument console := by
  have literal {α : Type} (method : Method) (expected : LiteralKind)
      (parse : String → Except LiteralError α) (parsed : α → Log.Event) :
      ∃ n grown, Reached console.stream n
          (inputLiteral method expected parse parsed console).state.stream ∧
        (∀ event ∈ grown, event.isGrowth) ∧
        (inputLiteral method expected parse parsed console).events = grown ++
          (if (console.stream.source.readings n).contains .nothing then [.endOfStream] else []) ++
          (Console.readToken console).ending.logged .tokenRead ++
          (inputLiteral method expected parse parsed console).ending.logged parsed := by
    obtain ⟨n, grown, reached, growths, told⟩ := Console.readToken_logs console
    obtain ⟨left, behind⟩ := inputLiteral_apply method expected parse parsed console
    exact ⟨n, grown, left ▸ reached, growths, by rw [behind, told]⟩
  cases method with
  | print => exact absurd (.inl rfl) reads
  | printBool => exact absurd (.inr (.inl rfl)) reads
  | printInt32 => exact absurd (.inr (.inr rfl)) reads
  | inputLine =>
      obtain ⟨n, grown, reached, growths, told⟩ := Console.readLine_logs console
      refine ⟨n, grown, reached, growths, ?_⟩
      have same : (inputLine console).ending.logged (fun line => .lineRead line.utf8ByteSize) =
          (Console.readLine console).ending.logged fun line => .lineRead line.utf8ByteSize :=
        Ending.logged_mapError _ _ _
      change (Console.readLine console).events = _
      rw [told, valueEvents, List.append_nil]
      exact congrArg _ same.symm
  | inputBool => exact literal .inputBool .boolean parseBool (.booleanParsed .inputBool)
  | inputInt32 => exact literal .inputInt32 .integer parseInt32 (.integerParsed .inputInt32)

end Base
end RootObject
