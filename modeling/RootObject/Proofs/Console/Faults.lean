import RootObject.Proofs.Console.Logs
import RootObject.Proofs.Console.Pieces
import RootObject.Proofs.Input.Failures
import RootObject.Proofs.Literal.Grammar
import RootObject.Proofs.Output.Sink

/-!
What faults the six methods end in, and why. A call uses up some answers of its sink and reads the source so
many times; what it fails with is told by these alone, by what its buffer asked for, and by the token it has
read (`Base.Faults`). So a method that prints fails by its sink only, one that reads fails by the flush in
front of it, by the source or by memory, and one that reads a literal fails by its token as well
(`Base.call_faults`).
-/

namespace RootObject

/-! ### Answers of sinks -/

namespace Sink

/-- Writing a text fails with an error just where one of the answers it uses up ends the text with that. -/
theorem deliver_answers (script : List Answer) (bytes : List UInt8) (record : List Entry) :
    ∃ answers, script = answers ++ (deliver bytes record script).2.script ∧
      ∀ error, (deliver bytes record script).1 = .error error ↔
        ∃ answer ∈ answers, answer.Stops error := by
  induction script generalizing bytes record with
  | nil => exact ⟨[], rfl, by simp [deliver]⟩
  | cons answer rest ih =>
      by_cases empty : bytes = []
      · subst empty
        rw [deliver_nil]
        exact ⟨[], rfl, by simp⟩
      by_cases stops : ∃ error, answer.Stops error
      · obtain ⟨error, stops⟩ := stops
        obtain ⟨entry, -, delivered⟩ := deliver_of_stops stops empty record rest
        rw [delivered]
        refine ⟨[answer], rfl, fun error' => ?_⟩
        simp only [Except.error.injEq, List.mem_singleton, exists_eq_left]
        constructor
        · rintro rfl
          exact stops
        · exact stops.unique
      · have goesOn : ∀ error, ¬ answer.Stops error := fun error now => stops ⟨error, now⟩
        obtain ⟨entry, -, delivered⟩ := deliver_of_goesOn goesOn empty record rest
        obtain ⟨answers, used, fails⟩ := ih (bytes.drop (answer.takes bytes.length)) (entry :: record)
        rw [delivered]
        refine ⟨answer :: answers, congrArg (answer :: ·) used, fun error => ?_⟩
        simp [fails error, goesOn error]

end Sink

namespace Console

open RootObject.Action

variable {ε α : Type}

/-- The answers of its sink that a read uses up: one, where it flushes. -/
def Settings.answers (settings : Settings) (sink : Sink) : List Sink.Answer :=
  if settings.flushBeforeInput then sink.script.take 1 else []

theorem Settings.answers_append (settings : Settings) (sink : Sink) :
    sink.script = settings.answers sink ++ (settings.flushed sink).script := by
  unfold answers flushed
  by_cases wanted : settings.flushBeforeInput = true
  · obtain ⟨entry, -, left⟩ := sink.flush_once
    rw [if_pos wanted, if_pos wanted, left]
    cases sink.script <;> rfl
  · rw [if_neg wanted, if_neg wanted]
    rfl

/-- A flush fails just where its answer is a refusal. -/
theorem Settings.refusal?_eq_some_iff {settings : Settings} {sink : Sink} {error : IoError} :
    settings.refusal? sink = some error ↔ .refuse error ∈ settings.answers sink := by
  obtain ⟨script, record⟩ := sink
  unfold refusal? answers Sink.flush
  by_cases wanted : settings.flushBeforeInput = true
  · rw [if_pos wanted, if_pos wanted]
    cases script with
    | nil => simp
    | cons answer rest => cases answer <;> simp [eq_comm]
  · simp [wanted]

/-- What an action does to the stream of a console with these settings and this sink. -/
def onlyStream (action : Action Console ε α) (settings : Settings) (sink : Sink) : Action Stream ε α :=
  fun stream =>
    let outcome := action ⟨settings, stream, sink⟩
    ⟨outcome.ending, outcome.state.stream, outcome.events⟩

/-! ### Lines and tokens -/

theorem lineOf_io_iff {terminator : LineTerminator} {stream : Stream} {n : Nat}
    (reads : Stream.Reads ReadError.io (lineOf terminator) stream n) (error : IoError) :
    (lineOf terminator stream).ending = .failed (.io error) ↔ .failure error ∈ stream.source.readings n := by
  obtain ⟨segment, settles⟩ := lineOf_settles terminator stream
  exact reads.io_iff settles error

theorem tokenOf_io_iff {stream : Stream} {n : Nat} (reads : Stream.Reads ReadError.io tokenOf stream n)
    (error : IoError) :
    (tokenOf stream).ending = .failed (.io error) ↔ .failure error ∈ stream.source.readings n := by
  obtain ⟨segment, settles⟩ := tokenOf_settles stream
  exact reads.io_iff settles error

/-- Behind the blanks a token ends as the word there does. -/
theorem tokenOf_exhausted_iff {stream : Stream} {requested : Nat} :
    (tokenOf stream).ending = .failed (.exhausted requested) ↔
      ∃ count, (Stream.skipWhile isSpace stream).ending = .returned count ∧
        (Stream.readUntil isSpace (Stream.skipWhile isSpace stream).state).ending =
          .failed (.exhausted requested) := by
  have whole : tokenOf stream = _ := bind_apply _ _ _
  rw [whole]
  cases skipped : (Stream.skipWhile isSpace stream).ending <;>
    simp [Outcome.andThen, Action.mapError, Outcome.mapError, Ending.mapError, skipped]

/-- A token has no blank in it. -/
theorem not_mem_of_tokenOf {stream : Stream} {token : String}
    (returned : (tokenOf stream).ending = .returned token) {c : Char} (blank : c ∈ blanks) :
    c ∉ token.toList := by
  obtain ⟨count, skipped, read⟩ := exists_of_bind_returned returned
  change (Stream.readUntil isSpace (Stream.skipWhile isSpace stream).state).ending = _ at read
  obtain ⟨bytes, solid, rfl⟩ : ∃ bytes : List UInt8, bytes.all (!isSpace ·) = true ∧
      Utf8.decode bytes = token := by
    have halts := Stream.readUntil_halts isSpace _ read
    cases halts with
    | @ended bytes _ accepted => exact ⟨bytes, accepted, rfl⟩
    | @stopped bytes _ _ _ accepted => exact ⟨bytes, accepted, rfl⟩
  intro among
  rw [Utf8.toList_decode] at among
  have marked := List.contains_iff_mem.mpr blank
  obtain ⟨b, there, small, rfl⟩ := Utf8.mem_of_ascii among (separators_isSpace.ascii_mark c marked)
  have passed := List.all_eq_true.mp solid b there
  rw [← separators_isSpace.mark_iff b small, marked] at passed
  cases passed

/-! ### Reads at a console -/

/-- Why a read of a console fails: its flush was refused or a read of the source failed, or memory did. -/
structure ReadFails (read : Action Console ReadError String) (console : Console)
    (exhausted : Nat → Prop) (n : Nat) : Prop where
  reads : Stream.Reads ReadError.io (onlyStream read console.settings console.sink) console.stream n
  io : ∀ error, (read console).ending = .failed (.io error) ↔
    .refuse error ∈ console.settings.answers console.sink ∨
      .failure error ∈ console.stream.source.readings n
  memory : ∀ requested, (read console).ending = .failed (.exhausted requested) ↔
    (∀ error, .refuse error ∉ console.settings.answers console.sink) ∧ exhausted requested
  left : (read console).state.sink = console.settings.flushed console.sink

theorem readFails_of_performs {read : Action Console ReadError String} {event : String → Log.Event}
    {action : Action Stream ReadError String} {exhausted : Nat → Prop} {settings : Settings} {sink : Sink}
    {stream : Stream}
    (performs : Performs read settings sink (settings.flushed sink)
      (prepared? settings sink (logging event action)))
    (reads : ∃ n, Stream.Reads ReadError.io action stream n ∧
      ∀ error, (action stream).ending = .failed (.io error) ↔ .failure error ∈ stream.source.readings n)
    (memory : ∀ requested, (action stream).ending = .failed (.exhausted requested) ↔ exhausted requested) :
    ∃ n, ReadFails read ⟨settings, stream, sink⟩ exhausted n := by
  have seen : onlyStream read settings sink = prepared? settings sink (logging event action) := by
    funext stream
    unfold onlyStream
    rw [performs stream]
  have ended : (read ⟨settings, stream, sink⟩).ending =
      (prepared? settings sink (logging event action) stream).ending := by rw [performs stream]
  have left : (read ⟨settings, stream, sink⟩).state.sink = settings.flushed sink := by rw [performs stream]
  cases refusal : settings.refusal? sink with
  | some error =>
      rw [prepared?, refusal] at seen ended
      have refused := Settings.refusal?_eq_some_iff.mp refusal
      refine ⟨0, by rw [seen]; exact .fail _, fun error' => ?_, fun requested => ?_, left⟩
      · rw [ended, ← Settings.refusal?_eq_some_iff, refusal]
        simp [Action.fail, Source.readings]
      · rw [ended]
        exact iff_of_false (by simp [Action.fail]) fun spared => spared.1 error refused
  | none =>
      rw [prepared?, refusal] at seen ended
      have spared : ∀ error, .refuse error ∉ settings.answers sink := by
        intro error among
        cases refusal.symm.trans (Settings.refusal?_eq_some_iff.mpr among)
      obtain ⟨n, reads, io⟩ := reads
      obtain ⟨ending, -⟩ := logging_apply event action stream
      rw [ending] at ended
      refine ⟨n, by rw [seen]; exact reads_logging event reads, fun error => ?_, fun requested => ?_, left⟩
      · rw [ended, io]
        exact ⟨.inr, fun either => either.resolve_left (spared error)⟩
      · rw [ended, memory]
        exact ⟨fun now => ⟨spared, now⟩, And.right⟩

theorem readLine_fails (console : Console) : ∃ n, ReadFails readLine console (fun requested =>
    Buffer.Refused console.stream.capacity (Arrival.run (!isLineEnd ·) console.stream.arrivals).length
      requested) n := by
  obtain ⟨settings, stream, sink⟩ := console
  obtain ⟨n, reads⟩ := lineOf_reads settings.lineTerminator stream
  refine readFails_of_performs (readLine_performs settings sink) ⟨n, reads, lineOf_io_iff reads⟩ ?_
  intro requested
  rw [(lineOf_tells settings.lineTerminator stream).1]
  exact stream.readUntil_exhausted_iff isLineEnd requested

theorem readToken_fails (console : Console) : ∃ n, ReadFails readToken console (fun requested =>
    ∃ count, (Stream.skipWhile isSpace console.stream).ending = .returned count ∧
      Buffer.Refused (Stream.skipWhile isSpace console.stream).state.capacity
        (Arrival.run (!isSpace ·) (Stream.skipWhile isSpace console.stream).state.arrivals).length
        requested) n := by
  obtain ⟨settings, stream, sink⟩ := console
  obtain ⟨n, reads⟩ := tokenOf_reads stream
  refine readFails_of_performs (readToken_performs settings sink) ⟨n, reads, tokenOf_io_iff reads⟩ ?_
  intro requested
  simp only [tokenOf_exhausted_iff, Stream.readUntil_exhausted_iff]

/-- A token that a console reads has no blank in it. -/
theorem not_mem_of_readToken {console : Console} {token : String}
    (returned : (readToken console).ending = .returned token) {c : Char} (blank : c ∈ blanks) :
    c ∉ token.toList := by
  obtain ⟨settings, stream, sink⟩ := console
  rw [readToken_performs settings sink stream, prepared?] at returned
  cases refusal : settings.refusal? sink with
  | some error =>
      rw [refusal] at returned
      cases returned
  | none =>
      rw [refusal] at returned
      obtain ⟨ending, -⟩ := logging_apply .tokenRead tokenOf stream
      exact not_mem_of_tokenOf (ending.symm.trans returned) blank

end Console

/-! ### The root class -/

namespace Base

open Console (onlyStream blanks)

/-- The faults that a method may end in. -/
inductive Arises : Method → Fault → Prop where
  | io (method : Method) (error : IoError) : Arises method (.io method error)
  | memory {method : Method} (reads : ¬ method.Prints) (requested : Nat) :
      Arises method (.resourceExhausted method requested)
  | noBoolean (token : String) : Arises .inputBool (.malformedToken .inputBool token .boolean)
  | noInteger (token : String) : Arises .inputInt32 (.malformedToken .inputInt32 token .integer)
  | outOfRange (token : String) : Arises .inputInt32 (.outOfRange .inputInt32 token)

/-- An answer of the sink ends a call of the method with this error: an answer to a write that ends a text,
or any refusal of the flush in front of a read. -/
inductive EndedBy : Method → Sink.Answer → IoError → Prop where
  | write {method : Method} {answer : Sink.Answer} {error : IoError} (prints : method.Prints)
      (stops : answer.Stops error) : EndedBy method answer error
  | flush {method : Method} (reads : ¬ method.Prints) (error : IoError) :
      EndedBy method (.refuse error) error

/-- Where a method starts to gather its text, and what it stops at: a line at once, a word behind the blanks
if no failure comes between them. -/
inductive Gathers (stream : Stream) : Method → (UInt8 → Bool) → Stream → Prop where
  | line : Gathers stream .inputLine isLineEnd stream
  | word {method : Method} {count : Nat} (ofWord : method = .inputBool ∨ method = .inputInt32)
      (skipped : (Stream.skipWhile isSpace stream).ending = .returned count) :
      Gathers stream method isSpace (Stream.skipWhile isSpace stream).state

/-- The request of the method's buffer for so many bytes is made and is refused. -/
def OutOfMemory (method : Method) (stream : Stream) (requested : Nat) : Prop :=
  ∃ stop start, Gathers stream method stop start ∧
    Buffer.Refused start.capacity (Arrival.run (!stop ·) start.arrivals).length requested

/-- What faults a call of a method ends in, and why, where it has used up these answers of its sink and has
read the source `n` times. -/
structure Faults {α : Type} (action : Action Console Fault α) (method : Method) (console : Console)
    (answers : List Sink.Answer) (n : Nat) : Prop where
  used : console.sink.script = answers ++ (action console).state.sink.script
  reads : Stream.Reads (Fault.io method) (onlyStream action console.settings console.sink) console.stream n
  arises : ∀ fault, (action console).ending = .failed fault → Arises method fault
  /-- A token is told of where it was refused, and is the one that was read. -/
  token : ∀ fault token, (action console).ending = .failed fault → fault.token? = some token →
    (Console.readToken console).ending = .returned token ∧ ∀ c ∈ blanks, c ∉ token.toList
  io : ∀ error, (action console).ending = .failed (.io method error) ↔
    (∃ answer ∈ answers, EndedBy method answer error) ∨ .failure error ∈ console.stream.source.readings n
  memory : ∀ requested, (action console).ending = .failed (.resourceExhausted method requested) ↔
    (∀ error, .refuse error ∉ answers) ∧ OutOfMemory method console.stream requested

theorem Arises.method_eq {method : Method} {fault : Fault} (arises : Arises method fault) :
    fault.method = method := by
  cases arises <;> rfl

/-- A token is told of by just the faults of literals. -/
theorem Arises.isSome_token_iff {method : Method} {fault : Fault} (arises : Arises method fault) :
    fault.token?.isSome ↔ (∃ token expected, fault = .malformedToken method token expected) ∨
      ∃ token, fault = .outOfRange method token := by
  cases arises <;> simp [Fault.token?]

/-! ### Methods that print -/

theorem write_apply (method : Method) (text : String) (console : Console) :
    write method text console =
      ⟨match (console.sink.writeAll (Utf8.encode text)).1 with
        | .ok () => .returned .self
        | .error error => .failed (.io method error),
        { console with sink := (console.sink.writeAll (Utf8.encode text)).2 }, []⟩ := by
  rw [write, Action.bind_apply, Action.mapError, Console.write, Console.onSink]
  cases console.sink.writeAll (Utf8.encode text) with
  | mk result sink => cases result <;> rfl

theorem write_faults {method : Method} (prints : method.Prints) (text : String) (console : Console) :
    ∃ answers n, Faults (write method text) method console answers n := by
  obtain ⟨answers, used, fails⟩ :=
    Sink.deliver_answers console.sink.script (Utf8.encode text) console.sink.record
  change console.sink.script = answers ++ (console.sink.writeAll (Utf8.encode text)).2.script at used
  change ∀ error, (console.sink.writeAll (Utf8.encode text)).1 = .error error ↔ _ at fails
  have ended := congrArg Outcome.ending (write_apply method text console)
  have failed : ∀ fault, (write method text console).ending = .failed fault ↔
      ∃ error, fault = .io method error ∧ ∃ answer ∈ answers, answer.Stops error := by
    intro fault
    simp only [← fails]
    rw [ended]
    cases (console.sink.writeAll (Utf8.encode text)).1 with
    | ok value => simp
    | error error => simp [eq_comm]
  refine ⟨answers, 0, ?used, ?reads, ?arises, ?token, ?io, ?memory⟩
  case used =>
      rw [write_apply]
      exact used
  case reads =>
      refine .of_untouched (fun source => ?_) ?_ ?_ ?_
      · simp only [onlyStream, write_apply]
        rfl
      · simp only [onlyStream, write_apply]
      · simp only [onlyStream, write_apply]
      · intro message
        simp only [onlyStream, write_apply]
        cases (console.sink.writeAll (Utf8.encode text)).1 <;> simp
  case arises =>
      intro fault failed'
      obtain ⟨error, rfl, -⟩ := (failed fault).mp failed'
      exact .io method error
  case token =>
      intro fault token failed' told
      obtain ⟨error, rfl, -⟩ := (failed fault).mp failed'
      cases told
  case io =>
      intro error
      rw [failed]
      constructor
      · rintro ⟨_, ⟨⟩, answer, among, stops⟩
        exact .inl ⟨answer, among, .write prints stops⟩
      · rintro (⟨answer, among, ended⟩ | read)
        · cases ended with
          | write _ stops => exact ⟨error, rfl, answer, among, stops⟩
          | flush reads => exact absurd prints reads
        · cases read
  case memory =>
      intro requested
      rw [failed]
      refine iff_of_false ?_ ?_
      · rintro ⟨_, ⟨⟩, -⟩
      · rintro ⟨-, stop, start, gathers, -⟩
        cases gathers with
        | line => exact absurd prints (by decide)
        | word ofWord => rcases ofWord with rfl | rfl <;> exact absurd prints (by decide)

/-! ### Methods that read -/

theorem ofRead_eq_io_iff {method : Method} {error : ReadError} {failure : IoError} :
    Fault.ofRead method error = .io method failure ↔ error = .io failure := by
  cases error <;> simp [Fault.ofRead]

theorem ofRead_eq_exhausted_iff {method : Method} {error : ReadError} {requested : Nat} :
    Fault.ofRead method error = .resourceExhausted method requested ↔ error = .exhausted requested := by
  cases error <;> simp [Fault.ofRead]

theorem ofLiteral_ne_io {method : Method} {token : String} {expected : LiteralKind}
    {error : LiteralError} {failure : IoError} :
    Fault.ofLiteral method token expected error ≠ .io method failure := by
  cases error <;> simp [Fault.ofLiteral]

theorem ofLiteral_ne_exhausted {method : Method} {token : String} {expected : LiteralKind}
    {error : LiteralError} {requested : Nat} :
    Fault.ofLiteral method token expected error ≠ .resourceExhausted method requested := by
  cases error <;> simp [Fault.ofLiteral]

theorem arises_ofRead {method : Method} (reads : ¬ method.Prints) (error : ReadError) :
    Arises method (Fault.ofRead method error) := by
  cases error with
  | exhausted requested => exact .memory reads requested
  | io error => exact .io method error

theorem exists_endedBy_iff {method : Method} (reads : ¬ method.Prints) {answers : List Sink.Answer}
    {error : IoError} : (∃ answer ∈ answers, EndedBy method answer error) ↔ .refuse error ∈ answers := by
  constructor
  · rintro ⟨answer, among, ended⟩
    cases ended with
    | write prints _ => exact absurd prints reads
    | flush => exact among
  · intro among
    exact ⟨_, among, .flush reads error⟩

theorem inputLine_faults (console : Console) :
    ∃ answers n, Faults inputLine .inputLine console answers n := by
  have reading : ¬ Method.inputLine.Prints := by decide
  obtain ⟨n, fails⟩ := Console.readLine_fails console
  have failed : ∀ fault, (inputLine console).ending = .failed fault ↔
      ∃ error, (Console.readLine console).ending = .failed error ∧ Fault.ofRead .inputLine error = fault :=
    fun fault => Ending.mapError_eq_failed_iff
  refine ⟨console.settings.answers console.sink, n, ?used, ?reads, ?arises, ?token, ?io, ?memory⟩
  case used =>
      have left : (inputLine console).state.sink = console.settings.flushed console.sink := fails.left
      rw [left]
      exact console.settings.answers_append console.sink
  case reads => exact fails.reads.mapError (Fault.ofRead .inputLine)
  case arises =>
      intro fault ended
      obtain ⟨error, -, rfl⟩ := (failed fault).mp ended
      exact arises_ofRead reading error
  case token =>
      intro fault token ended told
      obtain ⟨error, -, rfl⟩ := (failed fault).mp ended
      cases error <;> cases told
  case io =>
      intro error
      rw [failed, exists_endedBy_iff reading, ← fails.io]
      simp only [ofRead_eq_io_iff, exists_eq_right]
  case memory =>
      intro requested
      rw [failed]
      simp only [ofRead_eq_exhausted_iff, exists_eq_right]
      rw [fails.memory]
      refine and_congr_right fun _ => ⟨fun refused => ⟨_, _, .line, refused⟩, ?_⟩
      rintro ⟨stop, start, gathers, refused⟩
      cases gathers with
      | line => exact refused
      | word ofWord => rcases ofWord with same | same <;> cases same

theorem inputLiteral_failed_iff {α : Type} {method : Method} {expected : LiteralKind}
    {parse : String → Except LiteralError α} {parsed : α → Log.Event} {console : Console} {fault : Fault} :
    (inputLiteral method expected parse parsed console).ending = .failed fault ↔
      (∃ error, (Console.readToken console).ending = .failed error ∧ Fault.ofRead method error = fault) ∨
      ∃ token error, (Console.readToken console).ending = .returned token ∧ parse token = .error error ∧
        Fault.ofLiteral method token expected error = fault := by
  rw [inputLiteral, Action.bind_apply, readWord, Action.mapError]
  cases Console.readToken console with
  | mk ending left events =>
      cases ending with
      | returned token =>
          simp only [Outcome.mapError, Ending.mapError, Outcome.andThen]
          cases parsing : parse token with
          | ok value => simp [parsing, Action.bind_apply, Action.emit, Outcome.andThen, Action.pure_apply]
          | error error => simp [parsing, Action.fail]
      | failed error => simp [Outcome.mapError, Ending.mapError, Outcome.andThen]
      | aborted message => simp [Outcome.mapError, Ending.mapError, Outcome.andThen]

/-- Judging a word reads nothing. -/
theorem judged_reads {α : Type} (method : Method) (expected : LiteralKind)
    (parse : String → Except LiteralError α) (parsed : α → Log.Event) (token : String) (stream : Stream) :
    Stream.Reads (Fault.io method) (judged method expected parse parsed token) stream 0 := by
  unfold judged
  cases parse token with
  | ok value =>
      have told : Stream.Reads (Fault.io method)
          (Action.emit (parsed value) >>= fun _ => pure value) stream (0 + 0) :=
        Stream.Reads.bind_of_returned (.emit (parsed value)) rfl (.pure value)
      exact told
  | error error => exact .fail _

theorem inputLiteral_reads {α : Type} {method : Method} {expected : LiteralKind}
    {parse : String → Except LiteralError α} {parsed : α → Log.Event} {settings : Console.Settings}
    {sink : Sink} {stream : Stream} {n : Nat}
    (reads : Stream.Reads ReadError.io (onlyStream Console.readToken settings sink) stream n) :
    Stream.Reads (Fault.io method) (onlyStream (inputLiteral method expected parse parsed) settings sink)
      stream n := by
  have whole : onlyStream (inputLiteral method expected parse parsed) settings sink =
      (onlyStream Console.readToken settings sink).mapError (Fault.ofRead method) >>=
        judged method expected parse parsed := by
    funext stream
    simp only [onlyStream, inputLiteral, readWord, Action.bind_apply, Action.mapError]
    cases Console.readToken ⟨settings, stream, sink⟩ with
    | mk ending left events =>
        cases ending with
        | returned token =>
            simp only [Outcome.mapError, Ending.mapError, Outcome.andThen, judged]
            cases parse token <;> rfl
        | failed error => rfl
        | aborted message => rfl
  have told : Stream.Reads (Fault.io method)
      ((onlyStream Console.readToken settings sink).mapError (Fault.ofRead method)) stream n :=
    reads.mapError (Fault.ofRead method)
  rw [whole]
  cases ended : ((onlyStream Console.readToken settings sink).mapError (Fault.ofRead method) stream).ending with
  | returned token =>
      exact told.bind_of_returned ended (judged_reads method expected parse parsed token _)
  | failed error => exact told.bind_of_not_returned (by simp [ended])
  | aborted message => exact told.bind_of_not_returned (by simp [ended])

theorem inputLiteral_faults {α : Type} {method : Method} {expected : LiteralKind}
    {parse : String → Except LiteralError α} (parsed : α → Log.Event)
    (ofWord : method = .inputBool ∨ method = .inputInt32)
    (judges : ∀ token error, parse token = .error error →
      Arises method (Fault.ofLiteral method token expected error)) (console : Console) :
    ∃ answers n, Faults (inputLiteral method expected parse parsed) method console answers n := by
  have reading : ¬ method.Prints := by
    rcases ofWord with rfl | rfl <;> decide
  obtain ⟨n, fails⟩ := Console.readToken_fails console
  refine ⟨console.settings.answers console.sink, n, ?used, ?reads, ?arises, ?token, ?io, ?memory⟩
  case used =>
      rw [(inputLiteral_apply method expected parse parsed console).1, fails.left]
      exact console.settings.answers_append console.sink
  case reads => exact inputLiteral_reads fails.reads
  case arises =>
      intro fault ended
      rcases inputLiteral_failed_iff.mp ended with ⟨error, -, rfl⟩ | ⟨token, error, -, refused, rfl⟩
      · exact arises_ofRead reading error
      · exact judges token error refused
  case token =>
      intro fault token ended told
      rcases inputLiteral_failed_iff.mp ended with ⟨error, -, rfl⟩ | ⟨token', error, read, -, rfl⟩
      · cases error <;> cases told
      · have same : token' = token := by cases error <;> exact Option.some.inj told
        subst same
        exact ⟨read, fun c blank => Console.not_mem_of_readToken read blank⟩
  case io =>
      intro error
      rw [inputLiteral_failed_iff, exists_endedBy_iff reading, ← fails.io]
      simp only [ofRead_eq_io_iff, exists_eq_right, ofLiteral_ne_io, and_false, exists_false, or_false]
  case memory =>
      intro requested
      rw [inputLiteral_failed_iff]
      simp only [ofRead_eq_exhausted_iff, exists_eq_right, ofLiteral_ne_exhausted, and_false, exists_false,
        or_false]
      rw [fails.memory]
      refine and_congr_right fun _ => ⟨?_, ?_⟩
      · rintro ⟨count, skipped, refused⟩
        exact ⟨_, _, .word ofWord skipped, refused⟩
      · rintro ⟨stop, start, gathers, refused⟩
        cases gathers with
        | line => rcases ofWord with same | same <;> cases same
        | word _ skipped => exact ⟨_, skipped, refused⟩

/-! ### All methods -/

/-- Whatever a console's stream, sink and settings are and whatever a method is called with, the call has
used up some answers of the sink and read the source so many times, and these tell why it fails. Its fault
is one of the method's own and leaves with exit code 1. A token is told of by the faults of literals only,
and is the one that the call's own read has returned, in which there is no blank. An error of a sink or a
source is that of the flush in front of a read, however it was refused, of a write that failed for good or
took nothing, or of a read of the source that failed, which no interruption does; each such failure fails
the call, with that very error. Memory has run out where a request of the buffer was made and refused, for
that many bytes. -/
theorem call_faults (method : Method) (argument : method.Argument) (console : Console) :
    ∃ answers n, Faults (call method argument) method console answers n ∧
      (∀ fault, (call method argument console).ending = .failed fault →
        fault.method = method ∧ fault.exitCode = 1 ∧
        (fault.token?.isSome ↔ (∃ token expected, fault = .malformedToken method token expected) ∨
          ∃ token, fault = .outOfRange method token)) ∧
      ∀ error, .failure error ∈ console.stream.source.readings n → error.kind ≠ .interrupted := by
  have faults : ∃ answers n, Faults (call method argument) method console answers n := by
    cases method with
    | print => exact write_faults (.inl rfl) argument console
    | printBool => exact write_faults (.inr (.inl rfl)) _ console
    | printInt32 => exact write_faults (.inr (.inr rfl)) _ console
    | inputLine => exact inputLine_faults console
    | inputBool =>
        refine inputLiteral_faults _ (.inl rfl) (fun token error refused => ?_) console
        cases error with
        | malformed => exact .noBoolean token
        | outOfRange => exact absurd refused (Literal.parseBool_ne_outOfRange token)
    | inputInt32 =>
        refine inputLiteral_faults _ (.inr rfl) (fun token error _ => ?_) console
        cases error with
        | malformed => exact .noInteger token
        | outOfRange => exact .outOfRange token
  obtain ⟨answers, n, faults⟩ := faults
  refine ⟨answers, n, faults, ?_, fun error => Source.lasting_of_mem_readings⟩
  intro fault ended
  have arises := faults.arises fault ended
  exact ⟨arises.method_eq, rfl, arises.isSome_token_iff⟩

end Base
end RootObject
