import RootObject.Proofs.Console.Alike
import RootObject.Proofs.Console.Reads
import RootObject.Proofs.Input.Breakdown

/-!
Consoles over sources of which one read does not return, beside consoles over those where it fails. An
action of a console breaks down where that read is made for it, and only there; where it fails on the other
side, it fails with that failure. What consoles do is put together from actions of the stream and of the
sink, and so are the methods of the root class (`Base.call_breaks`).
-/

namespace RootObject

/-! ### Outcomes -/

namespace Outcome

variable {σ ε ε' α β : Type} {message : String} {apart : σ → σ → Prop} {fails : ε → Prop}
  {unwound : σ → Prop} {first second : Outcome σ ε α}

theorem Breaks.map (breaks : Breaks message apart fails unwound first second) (f : α → β) :
    Breaks message apart fails unwound (first.map f) (second.map f) := by
  cases breaks with
  | ahead still => exact .ahead still
  | broken told left => exact .broken told left

theorem Breaks.mapError {fails' : ε' → Prop} (breaks : Breaks message apart fails unwound first second)
    (f : ε → ε') (tells : ∀ error, fails error → fails' (f error)) :
    Breaks message apart fails' unwound (first.mapError f) (second.mapError f) := by
  cases breaks with
  | ahead still => exact .ahead still
  | broken told left => exact .broken (tells _ told) left

theorem Breaks.after (breaks : Breaks message apart fails unwound first second)
    (logged : List Log.Event) :
    Breaks message apart fails unwound (first.after logged) (second.after logged) := by
  cases breaks with
  | ahead still => exact .ahead still
  | broken told left => exact .broken told left

/-- An outcome that is aborted or failed is not gone on from. -/
theorem Breaks.andThen (breaks : Breaks message apart fails unwound first second)
    {next : α → σ → Outcome σ ε β}
    (later : ∀ value state state', apart state state' →
      Breaks message apart fails unwound (next value state) (next value state')) :
    Breaks message apart fails unwound (first.andThen next) (second.andThen next) := by
  cases breaks with
  | @ahead ending state state' events still =>
      cases ending with
      | returned value => exact (later value state state' still).after events
      | failed error => exact .ahead still
      | aborted message => exact .ahead still
  | broken told left => exact .broken told left

theorem Breaks.andThen? {first? second? : Option (Outcome σ ε α)}
    {next : α → σ → Option (Outcome σ ε β)}
    (breaks : Option.Rel (Breaks message apart fails unwound) first? second?)
    (later : ∀ value state state', apart state state' →
      Option.Rel (Breaks message apart fails unwound) (next value state) (next value state')) :
    Option.Rel (Breaks message apart fails unwound) (Outcome.andThen? first? next)
      (Outcome.andThen? second? next) := by
  cases breaks with
  | none => exact .none
  | some breaks =>
      cases breaks with
      | @ahead ending state state' events still =>
          cases ending with
          | returned value =>
              exact rel_map (later value state state' still) fun _ _ breaks => breaks.after events
          | failed error => exact .some (.ahead still)
          | aborted message => exact .some (.ahead still)
      | broken told left => exact .some (.broken told left)

end Outcome

/-! ### Consoles -/

namespace Console

open RootObject.Action

/-- The consoles are the same, but the one is going to break down where the other fails. -/
structure Apart (breakdown : Breakdown) (console console' : Console) : Prop where
  stream : console.stream.Apart breakdown console'.stream
  same : console' = { console with stream := console'.stream }

/-- On consoles that are apart the action breaks down where the read is made, and fails there on the other
side. -/
def Breaks {ε α : Type} (breakdown : Breakdown) (fails : ε → Prop) (action : Action Console ε α) : Prop :=
  ∀ console console', Apart breakdown console console' →
    Outcome.Breaks breakdown.message (Apart breakdown) fails (·.stream.Unwound breakdown)
      (action console) (action console')

variable {breakdown : Breakdown} {ε ε' α β : Type} {fails : ε → Prop} {action : Action Console ε α}

namespace Breaks

protected theorem pure (value : α) : Breaks breakdown fails (pure value : Action Console ε α) :=
  fun _ _ apart => .ahead apart

theorem fail (error : ε) : Breaks breakdown fails (Action.fail error : Action Console ε α) :=
  fun _ _ apart => .ahead apart

theorem emit (event : Log.Event) : Breaks breakdown fails (Action.emit event : Action Console ε Unit) :=
  fun _ _ apart => .ahead apart

protected theorem bind {next : α → Action Console ε β} (breaks : Breaks breakdown fails action)
    (later : ∀ value, Breaks breakdown fails (next value)) : Breaks breakdown fails (action >>= next) :=
  fun console console' apart =>
    (breaks console console' apart).andThen fun value _ _ apart => later value _ _ apart

protected theorem mapError {fails' : ε' → Prop} (breaks : Breaks breakdown fails action) (f : ε → ε')
    (tells : ∀ error, fails error → fails' (f error)) : Breaks breakdown fails' (action.mapError f) :=
  fun console console' apart => (breaks console console' apart).mapError f tells

end Breaks

theorem onSink_breaks (call : Sink → Except ε α × Sink) : Breaks breakdown fails (onSink call) := by
  intro console console' apart
  obtain ⟨stream, same⟩ := apart
  rw [same]
  exact .ahead ⟨stream, rfl⟩

theorem write_breaks {fails : IoError → Prop} (text : String) : Breaks breakdown fails (write text) :=
  onSink_breaks _

theorem flush_breaks {fails : IoError → Prop} : Breaks breakdown fails flush :=
  onSink_breaks _

/-- What a read does with the stream is all that it has to do with the source. -/
theorem breaks_of_performs {read : Action Console ReadError String}
    (performs : ∀ settings sink, ∃ left action, Performs read settings sink left action ∧
      ∀ stream, ∃ n, Stream.Reads ReadError.io action stream n) :
    Breaks breakdown (· = .io breakdown.error) read := by
  intro console console' apart
  obtain ⟨stream, same⟩ := apart
  obtain ⟨left, action, performs, reads⟩ := performs console.settings console.sink
  obtain ⟨n, reads⟩ := reads console.stream
  have breaks := reads.breaks stream
  have first := performs console.stream
  have second := performs console'.stream
  rw [same]
  change Outcome.Breaks _ _ _ _ (read ⟨console.settings, console.stream, console.sink⟩)
    (read ⟨console.settings, console'.stream, console.sink⟩)
  rw [first, second]
  generalize action console.stream = outcome at breaks
  generalize action console'.stream = outcome' at breaks
  cases breaks with
  | ahead still => exact .ahead ⟨still, rfl⟩
  | broken told left => exact .broken told left

theorem readLine_breaks : Breaks breakdown (· = .io breakdown.error) readLine :=
  breaks_of_performs fun settings sink => ⟨_, _, readLine_performs settings sink, fun stream =>
    prepared?_reads settings sink (logging_reads _ (lineOf_reads settings.lineTerminator stream))⟩

theorem readToken_breaks : Breaks breakdown (· = .io breakdown.error) readToken :=
  breaks_of_performs fun settings sink => ⟨_, _, readToken_performs settings sink, fun stream =>
    prepared?_reads settings sink (logging_reads _ (tokenOf_reads stream))⟩

end Console

/-! ### The root class -/

namespace Base

open RootObject.Console

variable {breakdown : Breakdown}

/-- What fails a read is the cause of the fault. -/
theorem cause?_ofRead (method : Method) {error : IoError} (failed : ReadError)
    (same : failed = .io error) : (Fault.ofRead method failed).cause? = some error := by
  rw [same]
  rfl

theorem write_breaks (method : Method) (text : String) :
    Breaks breakdown (·.cause? = some breakdown.error) (write method text) :=
  ((Console.write_breaks text).mapError (Fault.io method) fun _ told => told).bind fun _ =>
    .pure Receiver.self

theorem inputLine_breaks : Breaks breakdown (·.cause? = some breakdown.error) inputLine :=
  readLine_breaks.mapError (Fault.ofRead .inputLine) (cause?_ofRead .inputLine)

theorem inputLiteral_breaks {α : Type} (method : Method) (expected : LiteralKind)
    (parse : String → Except LiteralError α) (parsed : α → Log.Event) :
    Breaks breakdown (·.cause? = some breakdown.error) (inputLiteral method expected parse parsed) := by
  refine (readToken_breaks.mapError (Fault.ofRead method) (cause?_ofRead method)).bind fun token => ?_
  cases parse token with
  | ok value => exact (Breaks.emit (parsed value)).bind fun _ => .pure value
  | error error => exact .fail (Fault.ofLiteral method token expected error)

theorem call_breaks (method : Method) (argument : method.Argument) :
    Breaks breakdown (·.cause? = some breakdown.error) (call method argument) := by
  cases method with
  | print => exact write_breaks .print argument
  | printBool => exact write_breaks .printBool _
  | printInt32 => exact write_breaks .printInt32 _
  | inputLine => exact inputLine_breaks
  | inputBool => exact inputLiteral_breaks .inputBool .boolean parseBool (.booleanParsed .inputBool)
  | inputInt32 => exact inputLiteral_breaks .inputInt32 .integer parseInt32 (.integerParsed .inputInt32)

end Base
end RootObject
