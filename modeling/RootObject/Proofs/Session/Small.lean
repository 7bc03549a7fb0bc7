import RootObject.Proofs.Session.Alike
import RootObject.Proofs.Session.Invariants

/-!
Sessions in which memory never runs out. Where every first capacity is below the limit, and no stream is
going to bring half as many bytes as the limit, no request for a buffer reaches it, whatever is done
(`Session.grants_of_small`): no read of a stream makes it bring more, and none changes its capacity.
-/

namespace RootObject

/-! ### Streams -/

namespace Stream

/-- No request for a buffer can reach the limit. -/
structure Small (stream : Stream) : Prop where
  capacity : stream.capacity < Buffer.limit
  bytes : 2 * stream.remaining.length < Buffer.limit

variable {stream : Stream}

/-- A read leaves no more than there was. -/
theorem Meets.small {α : Type} {demand : Demand α} {outcome : Outcome Stream ReadError α}
    (meets : stream.Meets demand outcome) (small : stream.Small) : outcome.state.Small := by
  obtain ⟨⟨segment, fares⟩, kept⟩ := meets
  have taken := congrArg List.length fares.conserved
  rw [← remaining_eq, ← remaining_eq, List.length_append] at taken
  have few := small.bytes
  constructor
  · rw [kept]
    exact small.capacity
  · omega

theorem Small.grantsUntil (small : stream.Small) (stop : UInt8 → Bool) : stream.GrantsUntil stop := by
  have whole := congrArg (List.filterMap Arrival.byte?)
    (Arrival.run_append_afterRun (!stop ·) stream.arrivals)
  rw [List.filterMap_append, Arrival.filterMap_ofBytes, ← remaining_eq] at whole
  have long := congrArg List.length whole
  rw [List.length_append] at long
  have few := small.bytes
  exact Buffer.granted_of_lt small.capacity (by omega)

theorem Small.grantsToken (small : stream.Small) : stream.GrantsToken :=
  fun _ _ => ((skipWhile_meets isSpace stream).small small).grantsUntil isSpace

end Stream

/-! ### Consoles -/

namespace Console

/-- Memory does not run out, and the sink never fails. -/
structure Small (console : Console) : Prop where
  stream : console.stream.Small
  sink : console.sink.NeverFails

theorem ReadsBy.small {console : Console} {outcome : Outcome Stream ReadError String}
    {whole : Outcome Console ReadError String} {demand : Demand String}
    (reads : console.ReadsBy outcome whole) (meets : console.stream.Meets demand outcome)
    (small : console.Small) : whole.state.Small := by
  rw [reads.state]
  exact ⟨meets.small small.stream, prepared_neverFails small.sink⟩

theorem invariant_small : Invariant Small where
  write text console small := by
    obtain ⟨after, delivered, never, -⟩ := Sink.writeAll_of_neverFails small.sink (Utf8.encode text)
    unfold write onSink
    simp only [delivered]
    exact ⟨small.stream, never⟩
  flush console small := by
    rw [flush_of_neverFails small.sink]
    exact ⟨small.stream, small.sink.flush⟩
  readLine console small :=
    (readLine_readsBy small.sink.healthy).small (lineOf_meets _ (small.stream.grantsUntil isLineEnd))
      small
  readToken console small :=
    (readToken_readsBy small.sink.healthy).small (tokenOf_meets small.stream.grantsToken) small

end Console

open Console (invariant_small)

variable {console : Console}

/-! ### Calls and steps -/

theorem Base.grants_of_small (small : console.Small) (method : Method) :
    Base.Grants method console := by
  cases method with
  | print => trivial
  | printBool => trivial
  | printInt32 => trivial
  | inputLine => exact small.stream.grantsUntil isLineEnd
  | inputBool => exact small.stream.grantsToken
  | inputInt32 => exact small.stream.grantsToken

section Script

variable {calls : Calls} {granted : (method : Method) → method.Argument → Console → Prop}

theorem Request.grants_of_small
    (grants : ∀ method argument console, Console.Small console → granted method argument console)
    (request : Request) (small : console.Small) : request.Grants granted console := by
  cases request with
  | base method argument => exact Base.grants_of_small small method
  | call method argument => exact grants method argument console small
  | write text => trivial
  | flush => trivial
  | readLine => exact small.stream.grantsUntil isLineEnd
  | readToken => exact small.stream.grantsToken

theorem Script.grants_of_small {α : Type}
    (keeps : ∀ method argument, Console.Keeps Console.Small (calls method argument))
    (grants : ∀ method argument console, Console.Small console → granted method argument console)
    (script : Script α) (small : console.Small) : script.Grants calls granted console := by
  induction script generalizing console with
  | done result => trivial
  | ask request next ih =>
      refine ⟨request.grants_of_small grants small, ?_⟩
      intro outcome answer performed returned
      exact ih answer (request.perform_keeps invariant_small keeps console outcome small performed)

end Script

theorem Table.grants_of_small (table : Table) (depth : Nat) (method : Method)
    (argument : method.Argument) (small : console.Small) :
    table.Grants depth method argument console := by
  induction depth generalizing method console with
  | zero => trivial
  | succ depth ih =>
      apply Script.grants_of_small (table.calls_keeps invariant_small depth)
      · intro method argument console small
        exact ih method argument small
      · exact small

namespace Object

theorem grants_of_small (object : Object) (way : Way) (depth : Nat) (method : Method)
    (argument : method.Argument) (small : console.Small) :
    object.Grants way depth method argument console := by
  cases way with
  | dispatched => exact object.table.grants_of_small depth method argument small
  | direct => exact Base.grants_of_small small method

theorem printGrants_of_small (object : Object) (way : Way) (depth : Nat) (printing : Printing)
    (small : console.Small) : object.PrintGrants way depth printing console := by
  cases printing with
  | text text => exact object.grants_of_small way depth .print text small
  | bool value => exact object.grants_of_small way depth .printBool value small
  | int32 value => exact object.grants_of_small way depth .printInt32 value small

theorem chainGrants_of_small (object : Object) (depth : Nat) (printings : List (Way × Printing))
    (small : console.Small) : object.ChainGrants depth printings console := by
  induction printings generalizing object console with
  | nil => trivial
  | cons printing rest ih =>
      obtain ⟨way, printing⟩ := printing
      refine ⟨object.printGrants_of_small way depth printing small, ?_⟩
      intro outcome receiver printed returned
      exact ih _ (object.print_keeps invariant_small way depth printing console outcome small printed)

end Object

theorem Step.grants_of_small (depth : Nat) (step : Step) (small : console.Small) :
    step.Grants depth console := by
  cases step with
  | call object way method argument => exact object.grants_of_small way depth method argument small
  | chain object printings => exact object.chainGrants_of_small depth printings small
  | write text => trivial
  | flush => trivial
  | readLine => exact small.stream.grantsUntil isLineEnd
  | readToken => exact small.stream.grantsToken

/-! ### Sessions -/

namespace Session

/-- No terminal's memory runs out, and no sink fails. -/
structure Small (session : Session) : Prop where
  streams : ∀ stream ∈ session.streams, stream.Small
  sinks : ∀ seat ∈ session.terminals, seat.sink.NeverFails

variable {session : Session}

theorem Small.of_console? {terminal : Nat} (small : session.Small)
    (found : session.console? terminal = some console) : console.Small := by
  obtain ⟨seat, sits, found⟩ := Option.bind_eq_some_iff.mp found
  obtain ⟨stream, reads, same⟩ := Option.bind_eq_some_iff.mp found
  cases same
  exact ⟨small.streams stream (List.mem_of_getElem? reads), small.sinks seat (List.mem_of_getElem? sits)⟩

theorem Small.withConsole (small : session.Small) (terminal : Nat) (now : console.Small) :
    (session.withConsole terminal console).Small := by
  cases found : session.terminals[terminal]? with
  | none =>
      rw [Session.withConsole, found]
      exact small
  | some seat =>
      rw [withConsole_eq found]
      constructor
      · intro stream among
        rcases List.mem_or_eq_of_mem_set among with among | rfl
        · exact small.streams stream among
        · exact now.stream
      · intro other among
        rcases List.mem_or_eq_of_mem_set among with among | rfl
        · exact small.sinks other among
        · exact now.sink

theorem Small.perform {depth terminal : Nat} {step : Step}
    {outcome : Outcome Session Step.Error Step.Reply} (small : session.Small)
    (performed : session.perform depth terminal step = some outcome) : outcome.state.Small := by
  obtain ⟨console, found, stepped⟩ := Option.bind_eq_some_iff.mp performed
  obtain ⟨inner, taken, same⟩ := Option.bind_eq_some_iff.mp stepped
  cases same
  have now := step.perform_keeps invariant_small depth console inner (small.of_console? found) taken
  exact small.withConsole terminal now

/-- All that any steps ask for is granted. -/
theorem grants_of_small (depth : Nat) (steps : List (Nat × Step)) (small : session.Small) :
    session.Grants depth steps := by
  induction steps generalizing session with
  | nil => trivial
  | cons step rest ih =>
      obtain ⟨terminal, step⟩ := step
      constructor
      · intro console found
        exact step.grants_of_small depth (small.of_console? found)
      · intro outcome performed
        exact ih (small.perform performed)

end Session
end RootObject
