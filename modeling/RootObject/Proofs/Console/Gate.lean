import RootObject.Base
import RootObject.Proofs.Console.Reads

/-!
What consoles do with their sinks before they read, and with their streams when they write. A read is a
flush, where the settings ask for it, and behind it an action of the stream (`Gated`). So it makes one
call of the sink at most, and where that call fails the stream is not touched: whenever the flush passes
later, the read comes to what it would have come to at first (`Gated.flushesFirst`). To an action that
writes the stream makes no difference, and stays as it is (`Blind`).
-/

namespace RootObject

/-! ### Sinks -/

namespace Sink

/-- The next call of the sink is refused with this error. -/
def Refuses (sink : Sink) (error : IoError) : Prop :=
  sink.script.head? = some (.refuse error)

/-- The next flush of the sink succeeds. -/
def Passes (sink : Sink) : Prop :=
  ∀ error, ¬ sink.Refuses error

theorem flush_of_refuses {sink : Sink} {error : IoError} (refuses : sink.Refuses error) :
    sink.flush = (.error error, ⟨sink.script.tail, .flushFailed :: sink.record⟩) := by
  obtain ⟨script, record⟩ := sink
  cases script with
  | nil => cases refuses
  | cons answer rest =>
      cases refuses
      rfl

theorem flush_of_passes {sink : Sink} (passes : sink.Passes) :
    sink.flush = (.ok (), ⟨sink.script.tail, .flushed :: sink.record⟩) := by
  obtain ⟨script, record⟩ := sink
  cases script with
  | nil => rfl
  | cons answer rest =>
      cases answer with
      | accept => rfl
      | acceptAtMost count => rfl
      | refuse error => exact absurd rfl (passes error)

/-- A flush is one call, and no write. -/
theorem flush_once (sink : Sink) : ∃ entry, (entry = .flushed ∨ entry = .flushFailed) ∧
    sink.flush.2 = ⟨sink.script.tail, entry :: sink.record⟩ := by
  by_cases refused : ∃ error, sink.Refuses error
  · obtain ⟨error, refuses⟩ := refused
    exact ⟨.flushFailed, .inr rfl, by rw [flush_of_refuses refuses]⟩
  · exact ⟨.flushed, .inl rfl, by rw [flush_of_passes (not_exists.mp refused)]⟩

end Sink

namespace Console

open RootObject.Action

variable {ε ε' α β : Type}

/-! ### Reads -/

namespace Settings

variable {settings : Settings} {sink : Sink} {error : IoError}

theorem refusal?_of_refuses (wanted : settings.flushBeforeInput = true) (refuses : sink.Refuses error) :
    settings.refusal? sink = some error := by
  simp [refusal?, wanted, Sink.flush_of_refuses refuses]

theorem refusal?_of_passes (settings : Settings) (passes : sink.Passes) :
    settings.refusal? sink = none := by
  simp [refusal?, Sink.flush_of_passes passes]

end Settings

/-- A flush, where the settings ask for it, and then an action of the stream, which depends on nothing
else than how lines are ended. -/
def gate (refusal : IoError → ε) (body : LineTerminator → Action Stream ε α) : Action Console ε α := do
  let console ← Action.get
  if console.settings.flushBeforeInput then
    flush.mapError refusal
  onStream (body console.settings.lineTerminator)

/-- The read is such an action behind a flush, which tells of its failure like this. -/
def Gated (read : Action Console ε α) (refusal : IoError → ε) : Prop :=
  ∃ body, read = gate refusal body

section Gate

variable (refusal : IoError → ε) (body : LineTerminator → Action Stream ε α)

theorem gate_apply (settings : Settings) (stream : Stream) (sink : Sink) :
    gate refusal body ⟨settings, stream, sink⟩ =
      match settings.refusal? sink with
      | some error => ⟨.failed (refusal error), ⟨settings, stream, settings.flushed sink⟩, []⟩
      | none => onStream (body settings.lineTerminator) ⟨settings, stream, settings.flushed sink⟩ := by
  unfold gate Settings.refusal? Settings.flushed
  rw [bind_apply]
  cases wanted : settings.flushBeforeInput with
  | false => simp [Action.get, Outcome.andThen, wanted]
  | true =>
      rcases flushed : sink.flush with ⟨_ | _, left⟩ <;>
        simp [Action.get, Outcome.andThen, wanted, bind_apply, flush, onSink, flushed, Action.mapError,
          Outcome.mapError, Ending.mapError]

theorem gate_sink (console : Console) :
    (gate refusal body console).state.sink = console.settings.flushed console.sink := by
  obtain ⟨settings, stream, sink⟩ := console
  rw [gate_apply]
  cases settings.refusal? sink <;> rfl

theorem gate_mapError (f : ε → ε') : (gate refusal body).mapError f =
    gate (f ∘ refusal) fun terminator => (body terminator).mapError f := by
  funext ⟨settings, stream, sink⟩
  rw [gate_apply, Action.mapError, gate_apply]
  cases settings.refusal? sink <;> rfl

/-- What follows on the stream alone belongs to the action behind the flush. -/
theorem gate_bind (next : α → Action Stream ε β) :
    (gate refusal body >>= fun value => onStream (next value)) =
      gate refusal fun terminator => body terminator >>= next := by
  funext ⟨settings, stream, sink⟩
  rw [gate_apply, bind_apply, gate_apply]
  cases settings.refusal? sink with
  | some error => rfl
  | none =>
      simp only [onStream, Action.within, bind_apply]
      rcases body settings.lineTerminator stream with ⟨_ | _ | _, rest, events⟩ <;> rfl

end Gate

namespace Gated

variable {read : Action Console ε α} {refusal : IoError → ε}

theorem mapError (gated : Gated read refusal) (f : ε → ε') : Gated (read.mapError f) (f ∘ refusal) := by
  obtain ⟨body, rfl⟩ := gated
  exact ⟨_, gate_mapError refusal body f⟩

theorem bind (gated : Gated read refusal) {next : α → Action Console ε β}
    {after : α → Action Stream ε β} (same : ∀ value, next value = onStream (after value)) :
    Gated (read >>= next) refusal := by
  obtain ⟨body, rfl⟩ := gated
  obtain rfl : next = fun value => onStream (after value) := funext same
  exact ⟨_, gate_bind refusal body after⟩

end Gated

theorem readLine_gated : Gated readLine ReadError.io := by
  refine ⟨fun terminator => logging (fun line => .lineRead line.utf8ByteSize) (lineOf terminator), ?_⟩
  funext ⟨settings, stream, sink⟩
  rw [readLine_performs settings sink stream, gate_apply, prepared?]
  cases settings.refusal? sink <;> rfl

theorem readToken_gated : Gated readToken ReadError.io := by
  refine ⟨fun _ => logging .tokenRead tokenOf, ?_⟩
  funext ⟨settings, stream, sink⟩
  rw [readToken_performs settings sink stream, gate_apply, prepared?]
  cases settings.refusal? sink <;> rfl

/-! ### What a flush in front of a read means -/

/-- What a read makes of its sink, and of a flush that fails. -/
structure FlushesFirst (read : Action Console ε α) (refusal : IoError → ε) : Prop where
  /-- Nothing is done with the stream before the flush, and nothing with the sink behind it. -/
  gated : Gated read refusal
  unflushed : ∀ console, console.settings.flushBeforeInput = false →
    (read console).state.sink = console.sink
  /-- However the read ends, it made one call of the sink, which was no write. -/
  once : ∀ console, console.settings.flushBeforeInput = true →
    ∃ entry, (entry = .flushed ∨ entry = .flushFailed) ∧
      (read console).state.sink = ⟨console.sink.script.tail, entry :: console.sink.record⟩
  refused : ∀ console error, console.settings.flushBeforeInput = true → console.sink.Refuses error →
    read console = ⟨.failed (refusal error),
      { console with sink := ⟨console.sink.script.tail, .flushFailed :: console.sink.record⟩ }, []⟩
  /-- Behind a flush that succeeds the sink makes no difference. -/
  passed : ∀ console sink, console.sink.Passes → sink.Passes →
    (read { console with sink }).ending = (read console).ending ∧
      (read { console with sink }).state.stream = (read console).state.stream ∧
      (read { console with sink }).events = (read console).events
  /-- Made again until its flush succeeds, the read fails as often as that was refused, and then ends as
  it would have ended at first. -/
  retried : ∀ (console : Console) (errors : List IoError) (rest : List Sink.Answer) (sink : Sink),
    console.settings.flushBeforeInput = true →
    console.sink.script = errors.map .refuse ++ rest → Sink.Passes ⟨rest, []⟩ → sink.Passes →
    read.endings (errors.length + 1) console =
      errors.map (fun error => .failed (refusal error)) ++ [(read { console with sink }).ending]

namespace Gated

variable {read : Action Console ε α} {refusal : IoError → ε}

theorem sink_eq (gated : Gated read refusal) (console : Console) :
    (read console).state.sink = console.settings.flushed console.sink := by
  obtain ⟨body, rfl⟩ := gated
  exact gate_sink refusal body console

theorem refused (gated : Gated read refusal) {console : Console} {error : IoError}
    (wanted : console.settings.flushBeforeInput = true) (refuses : console.sink.Refuses error) :
    read console = ⟨.failed (refusal error),
      { console with sink := ⟨console.sink.script.tail, .flushFailed :: console.sink.record⟩ }, []⟩ := by
  obtain ⟨body, rfl⟩ := gated
  obtain ⟨settings, stream, sink⟩ := console
  have flushed : settings.flushed sink = ⟨sink.script.tail, .flushFailed :: sink.record⟩ := by
    rw [Settings.flushed, if_pos wanted, Sink.flush_of_refuses refuses]
  rw [gate_apply, Settings.refusal?_of_refuses wanted refuses, flushed]

/-- At a sink that passes the flush, the stream goes through what it would go through at any other. -/
theorem passed (gated : Gated read refusal) {console : Console} {sink : Sink}
    (passes : console.sink.Passes) (passes' : sink.Passes) :
    (read { console with sink }).ending = (read console).ending ∧
      (read { console with sink }).state.stream = (read console).state.stream ∧
      (read { console with sink }).events = (read console).events := by
  obtain ⟨body, rfl⟩ := gated
  obtain ⟨settings, stream, own⟩ := console
  rw [gate_apply, gate_apply, settings.refusal?_of_passes passes, settings.refusal?_of_passes passes']
  exact ⟨rfl, rfl, rfl⟩

/-- Each refusal costs one attempt and leaves the stream as it was. -/
theorem retried (gated : Gated read refusal) {errors : List IoError} {rest : List Sink.Answer}
    {console : Console} {sink : Sink} (wanted : console.settings.flushBeforeInput = true)
    (script : console.sink.script = errors.map .refuse ++ rest) (passes : Sink.Passes ⟨rest, []⟩)
    (passes' : sink.Passes) :
    read.endings (errors.length + 1) console =
      errors.map (fun error => .failed (refusal error)) ++ [(read { console with sink }).ending] := by
  induction errors generalizing console with
  | nil =>
      have now : console.sink.Passes := by
        intro error refuses
        refine passes error ?_
        rwa [Sink.Refuses, script] at refuses
      rw [(gated.passed now passes').1]
      rfl
  | cons error errors ih =>
      have refuses : console.sink.Refuses error := by
        rw [Sink.Refuses, script]
        rfl
      have first := gated.refused wanted refuses
      have onward : (read console).state.settings.flushBeforeInput = true := by
        rw [first]
        exact wanted
      have left : (read console).state.sink.script = errors.map .refuse ++ rest := by
        rw [first, script]
        rfl
      have later := ih onward left
      rw [first] at later
      rw [List.length_cons, endings, first]
      exact congrArg _ later

theorem flushesFirst (gated : Gated read refusal) : FlushesFirst read refusal where
  gated := gated
  unflushed console unwanted := by
    rw [gated.sink_eq, Settings.flushed, if_neg (by simp [unwanted])]
  once console wanted := by
    rw [gated.sink_eq, Settings.flushed, if_pos wanted]
    exact console.sink.flush_once
  refused _ _ := gated.refused
  passed _ _ := gated.passed
  retried _ _ _ _ := gated.retried

end Gated

/-! ### Writing -/

/-- The stream makes no difference to the action, and stays as it is. -/
def Blind (action : Action Console ε α) : Prop :=
  ∀ console stream, action { console with stream } =
    ⟨(action console).ending, { (action console).state with stream }, (action console).events⟩

namespace Blind

variable {action : Action Console ε α}

theorem stream_eq (blind : Blind action) (console : Console) :
    (action console).state.stream = console.stream := by
  rw [show action console = _ from blind console console.stream]

theorem mapError (blind : Blind action) (f : ε → ε') : Blind (action.mapError f) := by
  intro console stream
  rw [Action.mapError, blind console stream]
  rfl

theorem bind_pure (blind : Blind action) (f : α → β) :
    Blind (do return f (← action) : Action Console ε β) := by
  intro console stream
  rw [bind_pure_apply, bind_pure_apply, blind console stream]
  rfl

end Blind

theorem onSink_blind (call : Sink → Except ε α × Sink) : Blind (onSink call) :=
  fun _ _ => rfl

theorem write_blind (text : String) : Blind (write text) :=
  onSink_blind _

theorem flush_blind : Blind flush :=
  onSink_blind _

end Console

/-! ### The root class -/

/-- The method prints; the others read. -/
def Method.Prints (method : Method) : Prop :=
  method = .print ∨ method = .printBool ∨ method = .printInt32

instance (method : Method) : Decidable method.Prints :=
  inferInstanceAs (Decidable (_ ∨ _ ∨ _))

namespace Base

open Console (Gated Blind)

theorem write_blind (method : Method) (text : String) : Blind (write method text) :=
  ((Console.write_blind text).mapError (Fault.io method)).bind_pure fun _ => Receiver.self

theorem call_blind {method : Method} (prints : method.Prints) (argument : method.Argument) :
    Blind (call method argument) := by
  rcases prints with rfl | rfl | rfl
  · exact write_blind .print argument
  · exact write_blind .printBool _
  · exact write_blind .printInt32 _

/-- What follows on the word that was read: no more of the console is used. -/
def judged {α : Type} (method : Method) (expected : LiteralKind) (parse : String → Except LiteralError α)
    (parsed : α → Log.Event) (token : String) : Action Stream Fault α :=
  match parse token with
  | .ok value => do
      Action.emit (parsed value)
      return value
  | .error error => Action.fail (Fault.ofLiteral method token expected error)

theorem inputLiteral_gated {α : Type} (method : Method) (expected : LiteralKind)
    (parse : String → Except LiteralError α) (parsed : α → Log.Event) :
    Gated (inputLiteral method expected parse parsed) (Fault.io method) := by
  have read : Gated (readWord method) (Fault.io method) :=
    Console.readToken_gated.mapError (Fault.ofRead method)
  refine @Gated.bind _ _ _ _ _ read _ (judged method expected parse parsed) fun token => ?_
  unfold judged
  cases parse token <;> rfl

theorem call_gated {method : Method} (reads : ¬ method.Prints) (argument : method.Argument) :
    Gated (call method argument) (Fault.io method) := by
  cases method with
  | print => exact absurd (.inl rfl) reads
  | printBool => exact absurd (.inr (.inl rfl)) reads
  | printInt32 => exact absurd (.inr (.inr rfl)) reads
  | inputLine => exact Console.readLine_gated.mapError (Fault.ofRead .inputLine)
  | inputBool => exact inputLiteral_gated .inputBool .boolean parseBool _
  | inputInt32 => exact inputLiteral_gated .inputInt32 .integer parseInt32 _

end Base
end RootObject
