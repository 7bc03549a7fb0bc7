import RootObject.Base
import RootObject.Proofs.Console.Writing

/-!
Consoles that cannot be told apart. Two consoles are alike when they end lines alike, are going to read
the same, have written the same, and have sinks that never fail (`Console.Alike`); their capacities,
whether they flush before input, and what their sinks have been asked for may differ. An action that
does alike on consoles that are alike is uniform. All actions of a console are, and so are those of the
root class (`Base.call_uniform`), as long as the requests for buffers are granted.
-/

namespace RootObject

/-! ### Outcomes -/

/-- What is related stays so under functions that keep it so. -/
theorem rel_map {α α' β β' : Type} {before : α → α' → Prop} {after : β → β' → Prop} {f : α → β}
    {f' : α' → β'} {a? : Option α} {a'? : Option α'} (related : Option.Rel before a? a'?)
    (kept : ∀ a a', before a a' → after (f a) (f' a')) : Option.Rel after (a?.map f) (a'?.map f') := by
  cases related with
  | none => exact .none
  | some related => exact .some (kept _ _ related)

theorem rel_bind {α α' β β' : Type} {before : α → α' → Prop} {after : β → β' → Prop}
    {f : α → Option β} {f' : α' → Option β'} {a? : Option α} {a'? : Option α'}
    (related : Option.Rel before a? a'?)
    (kept : ∀ a a', a? = some a → a'? = some a' → before a a' → Option.Rel after (f a) (f' a')) :
    Option.Rel after (a?.bind f) (a'?.bind f') := by
  cases related with
  | none => exact .none
  | some related => exact kept _ _ rfl rfl related

/-- What is related is there on both sides or on neither. -/
theorem rel_cases {α α' : Type} {related : α → α' → Prop} {a? : Option α} {a'? : Option α'}
    (same : Option.Rel related a? a'?) :
    (a? = none ∧ a'? = none) ∨ ∃ a a', a? = some a ∧ a'? = some a' ∧ related a a' := by
  cases same with
  | none => exact .inl ⟨rfl, rfl⟩
  | some same => exact .inr ⟨_, _, rfl, rfl, same⟩

namespace Outcome

variable {σ ε ε' α β : Type} {alike : σ → σ → Prop} {first second : Outcome σ ε α}

/-- They end in the same way and leave states that are alike. -/
structure Alike (alike : σ → σ → Prop) (first second : Outcome σ ε α) : Prop where
  ending : first.ending = second.ending
  state : alike first.state second.state

theorem Alike.map (same : Alike alike first second) (f : α → β) :
    Alike alike (first.map f) (second.map f) :=
  ⟨congrArg (Ending.map f) same.ending, same.state⟩

theorem Alike.mapError (same : Alike alike first second) (f : ε → ε') :
    Alike alike (first.mapError f) (second.mapError f) :=
  ⟨congrArg (Ending.mapError f) same.ending, same.state⟩

theorem Alike.attempt (same : Alike alike first second) :
    Alike alike (first.attempt : Outcome σ ε' (Except ε α)) second.attempt := by
  refine ⟨?_, same.state⟩
  unfold Outcome.attempt
  rw [same.ending]

/-- What goes on alike from the same values comes out alike. -/
theorem Alike.andThen (same : Alike alike first second) {next next' : α → σ → Outcome σ ε β}
    (later : ∀ value, first.ending = .returned value → second.ending = .returned value →
      Alike alike (next value first.state) (next' value second.state)) :
    Alike alike (first.andThen next) (second.andThen next') := by
  obtain ⟨ending, state, events⟩ := first
  obtain ⟨ending', state', events'⟩ := second
  obtain ⟨same, related⟩ := same
  cases same
  cases ending with
  | returned value =>
      obtain ⟨ending, state⟩ := later value rfl rfl
      exact ⟨ending, state⟩
  | failed error => exact ⟨rfl, related⟩
  | aborted message => exact ⟨rfl, related⟩

theorem andThen?_alike {first? second? : Option (Outcome σ ε α)}
    {next next' : α → σ → Option (Outcome σ ε β)} (same : Option.Rel (Alike alike) first? second?)
    (later : ∀ first second value, first? = some first → second? = some second →
      first.ending = .returned value → second.ending = .returned value →
      alike first.state second.state →
      Option.Rel (Alike alike) (next value first.state) (next' value second.state)) :
    Option.Rel (Alike alike) (andThen? first? next) (andThen? second? next') := by
  cases same with
  | none => exact .none
  | @some first second same =>
      obtain ⟨ending, state, events⟩ := first
      obtain ⟨ending', state', events'⟩ := second
      obtain ⟨same, related⟩ := same
      cases same
      cases ending with
      | returned value =>
          have onward := later _ _ value rfl rfl rfl rfl related
          exact rel_map onward fun _ _ onward => ⟨onward.ending, onward.state⟩
      | failed error => exact .some ⟨rfl, related⟩
      | aborted message => exact .some ⟨rfl, related⟩

end Outcome

/-- What holds where the action returns holds of what it left. -/
def Action.IfReturns {σ ε α : Type} (action : Action σ ε α) (onward : α → σ → Prop) (state : σ) :
    Prop :=
  ∀ value, (action state).ending = .returned value → onward value (action state).state

/-! ### Consoles -/

namespace Console

open RootObject.Action

/-- They end lines alike, are going to read the same and have written the same. -/
structure Alike (first second : Console) : Prop where
  terminator : first.settings.lineTerminator = second.settings.lineTerminator
  arrivals : first.stream.arrivals = second.stream.arrivals
  accepted : first.sink.accepted = second.sink.accepted
  never : first.sink.NeverFails
  never' : second.sink.NeverFails

/-- On consoles that are alike, and where it is granted what it asks for, the action does alike. -/
def Uniform {ε α : Type} (granted : Console → Prop) (action : Action Console ε α) : Prop :=
  ∀ first second : Console, first.Alike second → granted first → granted second →
    Outcome.Alike Alike (action first) (action second)

variable {ε ε' α β : Type} {granted : Console → Prop} {action : Action Console ε α}

namespace Uniform

theorem mapError (uniform : Uniform granted action) (f : ε → ε') :
    Uniform granted (action.mapError f) :=
  fun first second alike now now' => (uniform first second alike now now').mapError f

theorem pure (value : α) : Uniform (fun _ => True) (Pure.pure value : Action Console ε α) :=
  fun _ _ alike _ _ => ⟨rfl, alike⟩

theorem fail (error : ε) : Uniform (fun _ => True) (Action.fail error : Action Console ε α) :=
  fun _ _ alike _ _ => ⟨rfl, alike⟩

theorem emit (event : Log.Event) :
    Uniform (fun _ => True) (Action.emit event : Action Console ε Unit) :=
  fun _ _ alike _ _ => ⟨rfl, alike⟩

theorem mono {granted' : Console → Prop} (uniform : Uniform granted action)
    (weaker : ∀ console, granted' console → granted console) : Uniform granted' action :=
  fun first second alike now now' =>
    uniform first second alike (weaker first now) (weaker second now')

theorem bind {next : α → Action Console ε β} {onward : α → Console → Prop}
    (uniform : Uniform granted action) (later : ∀ value, Uniform (onward value) (next value)) :
    Uniform (fun console => granted console ∧ action.IfReturns onward console) (action >>= next) := by
  intro first second alike ⟨now, granted⟩ ⟨now', granted'⟩
  have same := uniform first second alike now now'
  refine same.andThen fun value returned returned' => ?_
  exact later value _ _ same.state (granted value returned) (granted' value returned')

/-- Nothing more is asked for by what follows. -/
theorem bind_true {next : α → Action Console ε β} (uniform : Uniform granted action)
    (later : ∀ value, Uniform (fun _ => True) (next value)) : Uniform granted (action >>= next) :=
  (uniform.bind later).mono fun _ now => ⟨now, fun _ _ => trivial⟩

end Uniform

/-! ### What consoles do -/

theorem write_uniform (text : String) : Uniform (fun _ => True) (write text) := by
  intro first second alike _ _
  obtain ⟨after, delivered, never, arrived⟩ :=
    Sink.writeAll_of_neverFails alike.never (Utf8.encode text)
  obtain ⟨after', delivered', never', arrived'⟩ :=
    Sink.writeAll_of_neverFails alike.never' (Utf8.encode text)
  unfold write onSink
  simp only [delivered, delivered']
  refine ⟨rfl, alike.terminator, alike.arrivals, ?_, never, never'⟩
  change after.accepted = after'.accepted
  rw [arrived, arrived', alike.accepted]

theorem flush_of_neverFails {console : Console} (never : console.sink.NeverFails) :
    flush console = ⟨.returned (), { console with sink := console.sink.flush.2 }, []⟩ := by
  obtain ⟨flushed, succeeds, -⟩ := Sink.flush_of_healthy never.healthy
  unfold flush onSink
  rw [succeeds]

theorem flush_uniform : Uniform (fun _ => True) flush := by
  intro first second alike _ _
  rw [flush_of_neverFails alike.never, flush_of_neverFails alike.never']
  refine ⟨rfl, alike.terminator, alike.arrivals, ?_, alike.never.flush, alike.never'.flush⟩
  change first.sink.flush.2.accepted = second.sink.flush.2.accepted
  rw [Sink.accepted_flush, Sink.accepted_flush, alike.accepted]

/-- What reads of streams meet the same demand, and meet the same arrivals, comes out alike. -/
theorem alike_of_readsBy {first second : Console} (alike : first.Alike second) {demand : Demand String}
    {outcome outcome' : Outcome Stream ReadError String}
    {whole whole' : Outcome Console ReadError String} (reads : first.ReadsBy outcome whole)
    (reads' : second.ReadsBy outcome' whole') (meets : first.stream.Meets demand outcome)
    (meets' : second.stream.Meets demand outcome') : Outcome.Alike Alike whole whole' := by
  obtain ⟨segment, fares⟩ := meets.fares
  obtain ⟨segment', fares'⟩ := meets'.fares
  rw [← alike.arrivals] at fares'
  obtain ⟨ending, -, after⟩ := fares.unique fares'
  constructor
  · rw [reads.ending, reads'.ending, ending]
  · rw [reads.state, reads'.state]
    constructor
    · exact alike.terminator
    · exact after
    · change first.prepared.accepted = second.prepared.accepted
      rw [accepted_prepared, accepted_prepared, alike.accepted]
    · exact prepared_neverFails alike.never
    · exact prepared_neverFails alike.never'

theorem readLine_uniform : Uniform (fun console => console.stream.GrantsUntil isLineEnd) readLine := by
  intro first second alike granted granted'
  have reads := readLine_readsBy alike.never.healthy
  have reads' := readLine_readsBy alike.never'.healthy
  rw [← alike.terminator] at reads'
  exact alike_of_readsBy alike reads reads' (lineOf_meets _ granted) (lineOf_meets _ granted')

theorem readToken_uniform : Uniform (fun console => console.stream.GrantsToken) readToken := by
  intro first second alike granted granted'
  exact alike_of_readsBy alike (readToken_readsBy alike.never.healthy)
    (readToken_readsBy alike.never'.healthy) (tokenOf_meets granted) (tokenOf_meets granted')

end Console

/-! ### The root class -/

namespace Base

open RootObject.Console

/-- No request for a buffer that the method makes reaches the limit. -/
def Grants : Method → Console → Prop
  | .print, _ | .printBool, _ | .printInt32, _ => True
  | .inputLine, console => console.stream.GrantsUntil isLineEnd
  | .inputBool, console | .inputInt32, console => console.stream.GrantsToken

theorem write_uniform (method : Method) (text : String) :
    Uniform (fun _ => True) (write method text) :=
  ((Console.write_uniform text).mapError (Fault.io method)).bind_true fun _ => .pure Receiver.self

theorem inputLine_uniform : Uniform (fun console => console.stream.GrantsUntil isLineEnd) inputLine :=
  readLine_uniform.mapError (Fault.ofRead .inputLine)

theorem inputLiteral_uniform {α : Type} (method : Method) (expected : LiteralKind)
    (parse : String → Except LiteralError α) (parsed : α → Log.Event) :
    Uniform (fun console => console.stream.GrantsToken)
      (inputLiteral method expected parse parsed) := by
  refine (readToken_uniform.mapError (Fault.ofRead method)).bind_true fun token => ?_
  cases parse token with
  | ok value => exact (Uniform.emit (parsed value)).bind_true fun _ => .pure value
  | error error => exact .fail (Fault.ofLiteral method token expected error)

theorem call_uniform (method : Method) (argument : method.Argument) :
    Uniform (Grants method) (call method argument) := by
  cases method with
  | print => exact write_uniform .print argument
  | printBool => exact write_uniform .printBool _
  | printInt32 => exact write_uniform .printInt32 _
  | inputLine => exact inputLine_uniform
  | inputBool => exact inputLiteral_uniform .inputBool .boolean parseBool (.booleanParsed .inputBool)
  | inputInt32 => exact inputLiteral_uniform .inputInt32 .integer parseInt32 (.integerParsed .inputInt32)

end Base
end RootObject
