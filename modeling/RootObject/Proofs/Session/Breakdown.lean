import RootObject.Proofs.Dispatch.Breakdown
import RootObject.Proofs.Session.Sharing

/-!
Sessions in which one read of a source does not return, beside those in which it fails. Until a step comes to
that read both go on alike. The step that comes to it is aborted in the one session and fails in the other, and
leaves the same session, so that from there on nothing tells the two apart (`Session.run_breaks`).
-/

namespace RootObject

open Console (Breaks?)

variable {breakdown : Breakdown}

theorem Console.Breaks?.map {ε ε' α β : Type} {fails : ε → Prop} {fails' : ε' → Prop}
    {action : Console → Option (Outcome Console ε α)} (breaks : Breaks? breakdown fails action)
    (f : α → β) (g : ε → ε') (tells : ∀ error, fails error → fails' (g error)) :
    Breaks? breakdown fails' fun console => (action console).map fun outcome =>
      (outcome.map f).mapError g :=
  fun console console' apart =>
    rel_map (breaks console console' apart) fun _ _ breaks => (breaks.map f).mapError g tells

/-! ### Steps -/

namespace Object

/-- What the object's methods are, reached in this way, hands failures on. -/
def HandsOn (object : Object) (way : Way) : Prop :=
  way = .dispatched → object.table.HandsOn

theorem HandsOn.returned {object : Object} {way : Way} (handsOn : object.HandsOn way)
    (receiver : Receiver) : (object.returned receiver).HandsOn way := by
  cases receiver with
  | self => exact handsOn
  | root => exact fun _ => Table.root_handsOn

theorem call_breaks {object : Object} {way : Way} (handsOn : object.HandsOn way) (depth : Nat)
    (method : Method) (argument : method.Argument) :
    Breaks? breakdown (·.cause? = some breakdown.error) (object.call way depth method argument) := by
  cases way with
  | dispatched => exact Table.calls_breaks (handsOn rfl) depth method argument
  | direct => exact (Base.call_breaks method argument).toOption

theorem print_breaks {object : Object} {way : Way} (handsOn : object.HandsOn way) (depth : Nat)
    (printing : Printing) :
    Breaks? breakdown (·.cause? = some breakdown.error) (object.print way depth printing) := by
  cases printing with
  | text text => exact call_breaks handsOn depth .print text
  | bool value => exact call_breaks handsOn depth .printBool value
  | int32 value => exact call_breaks handsOn depth .printInt32 value

theorem chain_breaks {object : Object} (depth : Nat) {printings : List (Way × Printing)}
    (handsOn : ∀ printing ∈ printings, object.HandsOn printing.1) :
    Breaks? breakdown (·.cause? = some breakdown.error) (object.chain depth printings) := by
  induction printings generalizing object with
  | nil => exact fun _ _ apart => .some (.ahead apart)
  | cons printing rest ih =>
      obtain ⟨way, printing⟩ := printing
      obtain ⟨now, later⟩ := List.forall_mem_cons.mp handsOn
      intro console console' apart
      refine Outcome.Breaks.andThen? (print_breaks now depth printing console console' apart) ?_
      intro receiver state state' apart
      exact ih (fun printing among => (later printing among).returned receiver) state state' apart

end Object

namespace Step

/-- The implementations that the step may run hand failures on. -/
def HandsOn : Step → Prop
  | .call object way _ _ => object.HandsOn way
  | .chain object printings => ∀ printing ∈ printings, object.HandsOn printing.1
  | .write _ | .flush | .readLine | .readToken => True

/-- What went wrong below the step, where it was a source or a sink. -/
def Error.cause? : Error → Option IoError
  | .fault failed => failed.cause?
  | .read (.io failed) | .io failed => some failed
  | .read (.exhausted _) => none

theorem perform_breaks {step : Step} (handsOn : step.HandsOn) (depth : Nat) :
    Breaks? breakdown (·.cause? = some breakdown.error) (step.perform depth) := by
  cases step with
  | call object way method argument =>
      exact (Object.call_breaks handsOn depth method argument).map (Reply.of object method) Error.fault
        fun _ => id
  | chain object printings =>
      exact (Object.chain_breaks depth handsOn).map Reply.object Error.fault fun _ => id
  | write text =>
      exact (Console.write_breaks text).toOption.map (fun _ => Reply.nothing) Error.io fun _ => id
  | flush => exact Console.flush_breaks.toOption.map (fun _ => Reply.nothing) Error.io fun _ => id
  | readLine =>
      exact Console.readLine_breaks.toOption.map Reply.text Error.read fun _ told => told ▸ rfl
  | readToken =>
      exact Console.readToken_breaks.toOption.map Reply.text Error.read fun _ told => told ▸ rfl

end Step

/-! ### Sessions -/

namespace Session

/-- The sessions are the same, but the stream at this place is going to break down in the one where it fails
in the other. -/
def Apart (breakdown : Breakdown) (place : Nat) (session session' : Session) : Prop :=
  ∃ stream stream', session.streams[place]? = some stream ∧ stream.Apart breakdown stream' ∧
    session' = { session with streams := session.streams.set place stream' }

/-- The stream at this place has nothing left of what the breakdown has ended. -/
def Unwound (breakdown : Breakdown) (place : Nat) (session : Session) : Prop :=
  ∃ stream, session.streams[place]? = some stream ∧ stream.Unwound breakdown

/-- The consoles that do not read from the stream at this place are left as they were. -/
def Elsewhere (place : Nat) (before session : Session) : Prop :=
  ∀ terminal seat, before.terminals[terminal]? = some seat → seat.stream ≠ place →
    session.console? terminal = before.console? terminal

variable {place depth terminal : Nat} {session session' : Session}

theorem elsewhere_withConsole {seat : Terminal} (found : session.terminals[terminal]? = some seat)
    (here : seat.stream = place) (console : Console) :
    Elsewhere place session (session.withConsole terminal console) := by
  intro other seat' found' away
  have different : terminal ≠ other := by
    rintro rfl
    cases found.symm.trans found'
    exact away here
  rw [withConsole_eq found, console?, console?, List.getElem?_set_ne different, found', here]
  simp only [Option.bind_eq_bind, Option.bind_some, List.getElem?_set_ne away.symm]

section Apart

variable {stream stream' : Stream} {seat : Terminal}

theorem console?_set (found : session.terminals[terminal]? = some seat)
    (present : session.streams[place]? = some stream) :
    ({ session with streams := session.streams.set place stream' } : Session).console? terminal =
      if seat.stream = place then some ⟨seat.settings, stream', seat.sink⟩
      else session.console? terminal := by
  obtain ⟨inside, -⟩ := List.getElem?_eq_some_iff.mp present
  by_cases here : seat.stream = place
  · subst here
    simp [console?, found, inside]
  · simp [console?, found, here, List.getElem?_set_ne (Ne.symm here)]

/-- What becomes of the stream at this place replaces what was there. -/
theorem withConsole_set_here (found : session.terminals[terminal]? = some seat)
    (here : seat.stream = place) (console : Console) :
    ({ session with streams := session.streams.set place stream' } : Session).withConsole terminal
      console = session.withConsole terminal console := by
  have found' : ({ session with streams := session.streams.set place stream' } : Session).terminals[
    terminal]? = some seat := found
  rw [withConsole_eq found, withConsole_eq found', here, List.set_set]

theorem withConsole_set_elsewhere (found : session.terminals[terminal]? = some seat)
    (away : seat.stream ≠ place) (console : Console) :
    ({ session with streams := session.streams.set place stream' } : Session).withConsole terminal
        console =
      { session.withConsole terminal console with
        streams := (session.withConsole terminal console).streams.set place stream' } := by
  have found' : ({ session with streams := session.streams.set place stream' } : Session).terminals[
    terminal]? = some seat := found
  rw [withConsole_eq found, withConsole_eq found', List.set_comm _ _ (Ne.symm away)]

end Apart

/-- A step breaks down in a session where the console breaks down that it is taken at. -/
theorem perform_breaks (apart : Apart breakdown place session session') {step : Step}
    (handsOn : step.HandsOn) :
    Option.Rel
      (Outcome.Breaks breakdown.message (Apart breakdown place) (·.cause? = some breakdown.error)
        fun left => Unwound breakdown place left ∧ Elsewhere place session left)
      (session.perform depth terminal step) (session'.perform depth terminal step) := by
  obtain ⟨stream, stream', present, apart, rfl⟩ := apart
  obtain ⟨inside, -⟩ := List.getElem?_eq_some_iff.mp present
  unfold perform
  cases found : session.terminals[terminal]? with
  | none => simp [console?, found]
  | some seat =>
      rw [console?_set found present]
      by_cases here : seat.stream = place
      · have console : session.console? terminal = some ⟨seat.settings, stream, seat.sink⟩ := by
          simp [console?, found, here, present]
        have filled (console : Console) :
            (session.withConsole terminal console).streams[place]? = some console.stream := by
          rw [withConsole_eq found, here, List.getElem?_set_self inside]
        rw [if_pos here, console, Option.bind_eq_bind, Option.bind_some, Option.bind_eq_bind,
          Option.bind_some]
        refine rel_bind (Step.perform_breaks handsOn depth _ _ ⟨apart, rfl⟩) fun _ _ _ _ breaks => .some ?_
        cases breaks with
        | @ahead ending state state' events still =>
            obtain ⟨apart, same⟩ := still
            refine .ahead ⟨state.stream, state'.stream, filled state, apart, ?_⟩
            rw [withConsole_set_here found here, withConsole_eq found, withConsole_eq found, here,
              List.set_set, same]
        | @broken error state events told left =>
            rw [withConsole_set_here found here]
            exact .broken told ⟨⟨state.stream, filled state, left⟩, elsewhere_withConsole found here state⟩
      · rw [if_neg here]
        cases session.console? terminal with
        | none => exact .none
        | some console =>
            rw [Option.bind_eq_bind, Option.bind_some, Option.bind_eq_bind, Option.bind_some]
            cases step.perform depth console with
            | none => exact .none
            | some outcome =>
                refine .some (.ahead ⟨stream, stream', ?_, apart, withConsole_set_elsewhere found here _⟩)
                rw [withConsole_eq found, List.getElem?_set_ne here, present]

/-! ### Runs -/

/-- What came of steps in a session where a read did not return, beside what came of them where it failed:
they go on alike up to the step that comes to that read. It is aborted in the one session and fails in the
other, and leaves the same in both. From there on the same comes of all steps. -/
inductive RunBreaks (breakdown : Breakdown) (place : Nat) : Session →
    List (Outcome Session Step.Error Step.Reply) → List (Outcome Session Step.Error Step.Reply) →
    Prop where
  | done {session : Session} : RunBreaks breakdown place session [] []
  | ahead {session : Session} {outcome outcome' : Outcome Session Step.Error Step.Reply}
      {later later' : List (Outcome Session Step.Error Step.Reply)}
      (ending : outcome.ending = outcome'.ending) (events : outcome.events = outcome'.events)
      (apart : Apart breakdown place outcome.state outcome'.state)
      (onward : RunBreaks breakdown place outcome.state later later') :
      RunBreaks breakdown place session (outcome :: later) (outcome' :: later')
  | broken {session : Session} {outcome outcome' : Outcome Session Step.Error Step.Reply}
      {later : List (Outcome Session Step.Error Step.Reply)} {error : Step.Error}
      (aborted : outcome.ending = .aborted breakdown.message)
      (failed : outcome'.ending = .failed error) (cause : error.cause? = some breakdown.error)
      (state : outcome.state = outcome'.state) (events : outcome.events = outcome'.events)
      (unwound : Unwound breakdown place outcome.state)
      (elsewhere : Elsewhere place session outcome.state) :
      RunBreaks breakdown place session (outcome :: later) (outcome' :: later)

theorem run_apart (apart : Apart breakdown place session session') {steps : List (Nat × Step)}
    (handsOn : ∀ step ∈ steps, step.2.HandsOn) :
    Option.Rel (RunBreaks breakdown place session) (run depth steps session)
      (run depth steps session') := by
  induction steps generalizing session session' with
  | nil => exact .some .done
  | cons step rest ih =>
      obtain ⟨now, later⟩ := List.forall_mem_cons.mp handsOn
      obtain ⟨terminal, step⟩ := step
      rw [run, run]
      refine rel_bind (perform_breaks apart now) fun _ _ _ _ breaks => ?_
      cases breaks with
      | ahead still =>
          exact rel_bind (ih still later) fun _ _ _ _ onward => .some (.ahead rfl rfl still onward)
      | @broken error state events told left =>
          obtain ⟨unwound, elsewhere⟩ := left
          cases run depth rest state with
          | none => exact .none
          | some outcomes => exact .some (.broken rfl rfl told rfl rfl unwound elsewhere)

/-- A read of a shared source that does not return is to everyone but the step that made it a read that
failed. Whatever has happened before, other reads that did not return included, the step that comes to it
leaves the stream as a failure does: no byte is pushed back, the end has not been seen, and the source goes on
right behind that read. So from there on everything comes out as it does behind the failure, at every terminal
and at the one of that step too; and consoles over other streams are left as they were. All that consoles and
the root class do may be among the steps. An implementation has to hand failures on: one that goes on behind a
failure does more there than one that never saw the read return. -/
theorem run_breaks (depth place : Nat) (session : Session) (stream : Stream) (ahead : Source)
    (breakdown : Breakdown) (steps : List (Nat × Step)) (present : session.streams[place]? = some stream)
    (source : stream.source = ahead ++ breakdown.aborting)
    (handsOn : ∀ step ∈ steps, step.2.HandsOn) :
    Option.Rel (RunBreaks breakdown place session) (run depth steps session)
      (run depth steps { session with
        streams := session.streams.set place (stream.withSource (ahead ++ breakdown.failing)) }) :=
  run_apart ⟨stream, _, present, ⟨⟨ahead, source, rfl⟩, rfl⟩, rfl⟩ handsOn

/-- Two terminals over one source that gives up twice, the second time within a line that an implementation of
the catalogue reads, and a third terminal over another. -/
theorem run_breaks_second :
    let breakdown : Breakdown := ⟨"second", ⟨.brokenPipe, none⟩, rfl, [.data [0x20, 0x63, 0x0A]]⟩
    let ahead : Source := [.data [0x61], .abortion "first", .data [0x62]]
    let sharing (tail : Source) : Session :=
      ⟨[Stream.ofSource (ahead ++ tail) 1, Stream.ofSource (.ofBytes [0x78]) 1],
        [⟨⟨.keep, true⟩, .reliable, 0, true⟩, ⟨{}, .reliable, 0, true⟩, ⟨{}, .reliable, 1, false⟩]⟩
    let pair : Object := ⟨(Table.root.derive "Pair").substitute .inputLine Overrides.twoLines⟩
    let steps : List (Nat × Step) := [(0, .readToken), (1, .call pair .dispatched .inputLine ()),
      (2, .readLine), (0, .readToken), (1, .call pair .dispatched .inputLine ())]
    let told (outcome : Outcome Session Step.Error Step.Reply) : String :=
      match outcome.ending with
      | .returned (.text text) => text
      | .returned _ => ""
      | .failed error => (error.cause?.map IoError.message).getD ""
      | .aborted message => message
    ∃ outcomes outcomes', run 2 steps (sharing breakdown.aborting) = some outcomes ∧
      run 2 steps (sharing breakdown.failing) = some outcomes' ∧
      outcomes.map told = ["first", "second", "x", "c", "|"] ∧
      outcomes'.map told = ["first", "broken pipe", "x", "c", "|"] ∧
      RunBreaks breakdown 0 (sharing breakdown.aborting) outcomes outcomes' := by
  intro breakdown ahead sharing pair steps told
  have pairs : pair.HandsOn .dispatched := fun _ =>
    (Table.root_handsOn.derive "Pair").substitute (@Overrides.handsOn .inputLine "two" _ rfl)
  have handsOn : ∀ step ∈ steps, step.2.HandsOn := by
    simp only [steps, List.forall_mem_cons]
    exact ⟨trivial, pairs, trivial, trivial, pairs, fun _ none => absurd none List.not_mem_nil⟩
  have breaks := run_breaks 2 0 (sharing breakdown.aborting)
    (Stream.ofSource (ahead ++ breakdown.aborting) 1) ahead breakdown steps rfl rfl handsOn
  change Option.Rel _ (run 2 steps (sharing breakdown.aborting)) (run 2 steps (sharing breakdown.failing))
    at breaks
  have shown : (run 2 steps (sharing breakdown.aborting)).map (List.map told) =
      some ["first", "second", "x", "c", "|"] := by decide +kernel
  have shown' : (run 2 steps (sharing breakdown.failing)).map (List.map told) =
      some ["first", "broken pipe", "x", "c", "|"] := by decide +kernel
  obtain ⟨outcomes, ran, tells⟩ := Option.map_eq_some_iff.mp shown
  obtain ⟨outcomes', ran', tells'⟩ := Option.map_eq_some_iff.mp shown'
  refine ⟨outcomes, outcomes', ran, ran', tells, tells', ?_⟩
  rw [ran, ran'] at breaks
  cases breaks with
  | some breaks => exact breaks

end Session
end RootObject
