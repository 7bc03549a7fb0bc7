import RootObject.Proofs.Console.Gate
import RootObject.Proofs.Session.Inherited

/-!
What steps leave alone. A step reaches the sink of its own terminal only, whatever it is. A step that
writes changes no stream, and neither does a step that reads if the flush in front of it is refused
(`Idle`). Until some step does more, every stream stays as it was, and a read whose flush passes ends as
it would have ended in the beginning (`Session.run_frames`).
-/

namespace RootObject

open Console (Gated Blind FlushesFirst)

/-- The method is the root class's, reached in this way. -/
def Object.UsesBase (object : Object) (way : Way) (method : Method) : Prop :=
  way = .dispatched → object.table.Inherits method

theorem Object.call_of_usesBase {object : Object} {way : Way} {method : Method}
    (base : object.UsesBase way method) (depth : Nat) (argument : method.Argument) (console : Console) :
    object.call way (depth + 1) method argument console = some (Base.call method argument console) := by
  cases way with
  | dispatched => exact call_inherited (base rfl) argument
  | direct => rfl

/-! ### Steps -/

namespace Step

/-- The step writes: at the console itself, or by a method of the root class. -/
inductive Writes : Step → Prop where
  | write (text : String) : Writes (.write text)
  | flush : Writes .flush
  | call {object : Object} {way : Way} {method : Method} (base : object.UsesBase way method)
      (prints : method.Prints) (argument : method.Argument) : Writes (.call object way method argument)

/-- The step reads, in one of these ways, and tells like this of a flush that fails. -/
inductive Reads : Step → (IoError → Error) → Prop where
  | readLine : Reads .readLine fun error => .read (.io error)
  | readToken : Reads .readToken fun error => .read (.io error)
  | call {object : Object} {way : Way} {method : Method} (base : object.UsesBase way method)
      (reads : ¬ method.Prints) (argument : method.Argument) :
      Reads (.call object way method argument) fun error => .fault (.io method error)

/-- What an action comes to, as a step tells it. -/
def told {ε α : Type} (action : Action Console ε α) (reply : α → Reply) (error : ε → Error) :
    Action Console Error Reply :=
  (do return reply (← action)).mapError error

theorem told_apply {ε α : Type} (action : Action Console ε α) (reply : α → Reply) (error : ε → Error)
    (console : Console) :
    told action reply error console = ((action console).map reply).mapError error := by
  rw [told, Action.mapError, Action.bind_pure_apply]

theorem told_blind {ε α : Type} {action : Action Console ε α} (blind : Blind action) (reply : α → Reply)
    (error : ε → Error) : Blind (told action reply error) :=
  (blind.bind_pure reply).mapError error

theorem told_gated {ε α : Type} {read : Action Console ε α} {refusal : IoError → ε}
    (gated : Gated read refusal) (reply : α → Reply) (error : ε → Error) :
    Gated (told read reply error) (error ∘ refusal) :=
  (@Gated.bind _ _ _ _ _ gated _ (fun value => pure (reply value)) fun _ => rfl).mapError error

theorem Writes.perform {step : Step} (writes : step.Writes) (depth : Nat) :
    ∃ action : Action Console Error Reply, Blind action ∧
      ∀ console, step.perform (depth + 1) console = some (action console) := by
  cases writes with
  | write text =>
      refine ⟨_, told_blind (Console.write_blind text) (fun _ => .nothing) .io, fun console => ?_⟩
      rw [told_apply]
      rfl
  | flush =>
      refine ⟨_, told_blind Console.flush_blind (fun _ => .nothing) .io, fun console => ?_⟩
      rw [told_apply]
      rfl
  | @call object way method base prints argument =>
      refine ⟨_, told_blind (Base.call_blind prints argument) (Reply.of object method) .fault,
        fun console => ?_⟩
      rw [told_apply, Step.perform, Object.call_of_usesBase base]
      rfl

theorem Reads.perform {step : Step} {refusal : IoError → Error} (reads : step.Reads refusal)
    (depth : Nat) :
    ∃ action : Action Console Error Reply, Gated action refusal ∧
      ∀ console, step.perform (depth + 1) console = some (action console) := by
  cases reads with
  | readLine =>
      refine ⟨_, told_gated Console.readLine_gated .text .read, fun console => ?_⟩
      rw [told_apply]
      rfl
  | readToken =>
      refine ⟨_, told_gated Console.readToken_gated .text .read, fun console => ?_⟩
      rw [told_apply]
      rfl
  | @call object way method base reads argument =>
      refine ⟨_, told_gated (Base.call_gated reads argument) (Reply.of object method) .fault,
        fun console => ?_⟩
      rw [told_apply, Step.perform, Object.call_of_usesBase base]
      rfl

end Step

namespace Session

/-! ### Sessions up to their sinks -/

/-- The session with a reliable sink at each terminal. -/
def mended (session : Session) : Session :=
  { session with
    terminals := session.terminals.map fun seat => { seat with sink := .reliable } }

variable {session before after : Session} {terminal : Nat} {console left : Console}

theorem exists_seat (found : session.console? terminal = some console) :
    ∃ seat, session.terminals[terminal]? = some seat ∧
      session.streams[seat.stream]? = some console.stream ∧ seat.settings = console.settings ∧
      seat.sink = console.sink := by
  obtain ⟨seat, sits, found⟩ := Option.bind_eq_some_iff.mp found
  obtain ⟨stream, present, found⟩ := Option.bind_eq_some_iff.mp found
  cases found
  exact ⟨seat, sits, present, rfl, rfl⟩

theorem console?_mended (session : Session) (terminal : Nat) :
    session.mended.console? terminal =
      (session.console? terminal).map fun console => { console with sink := .reliable } := by
  unfold console? mended
  rw [List.getElem?_map]
  cases session.terminals[terminal]? with
  | none => rfl
  | some seat =>
      simp only [Option.map_some, Option.bind_eq_bind, Option.bind_some]
      cases session.streams[seat.stream]? <;> rfl

/-- A console that left its stream as it was left everything but its sink. -/
theorem mended_withConsole (found : session.console? terminal = some console)
    (same : left.stream = console.stream) :
    (session.withConsole terminal left).mended = session.mended := by
  obtain ⟨seat, sits, present, -, -⟩ := exists_seat found
  obtain ⟨inside, at_seat⟩ := List.getElem?_eq_some_iff.mp sits
  obtain ⟨inside', at_stream⟩ := List.getElem?_eq_some_iff.mp present
  have streams : session.streams.set seat.stream left.stream = session.streams := by
    rw [same, ← at_stream, List.set_getElem_self]
  have terminals : session.terminals.set terminal seat = session.terminals := by
    rw [← at_seat, List.set_getElem_self]
  rw [withConsole_eq sits, mended, mended, streams, List.map_set]
  conv => rhs; rw [← terminals, List.map_set]

/-- Where sessions differ in their sinks only, so do their consoles. -/
theorem eq_of_mended (same : after.mended = before.mended)
    (found : before.console? terminal = some console) (found' : after.console? terminal = some left) :
    left = { console with sink := left.sink } := by
  have mended := console?_mended after terminal
  rw [same, console?_mended, found, found', Option.map_some, Option.map_some, Option.some_inj] at mended
  obtain ⟨settings, stream, sink⟩ := left
  cases console
  cases mended
  rfl

/-! ### One step -/

/-- The step writes, or it reads and the flush in front of it is refused. -/
def Idle (session : Session) (terminal : Nat) (step : Step) : Prop :=
  step.Writes ∨ ∃ refusal console error, step.Reads refusal ∧
    session.console? terminal = some console ∧ console.settings.flushBeforeInput = true ∧
    console.sink.Refuses error

/-- What a step leaves alone. -/
structure Frames (before : Session) (terminal : Nat) (step : Step)
    (outcome : Outcome Session Step.Error Step.Reply) : Prop where
  /-- Whatever the step is, it reaches no sink but its own. -/
  terminals : ∀ other, other ≠ terminal →
    outcome.state.terminals[other]? = before.terminals[other]?
  /-- Whatever the step is, it reaches no stream but its own. -/
  streams : ∀ seat place, before.terminals[terminal]? = some seat → seat.stream ≠ place →
    outcome.state.streams[place]? = before.streams[place]?
  idle : before.Idle terminal step → outcome.state.mended = before.mended
  refused : ∀ refusal console error, step.Reads refusal → before.console? terminal = some console →
    console.settings.flushBeforeInput = true → console.sink.Refuses error →
      outcome.ending = .failed (refusal error)

theorem exists_of_perform {depth : Nat} {step : Step}
    {outcome : Outcome Session Step.Error Step.Reply}
    (performed : session.perform depth terminal step = some outcome) :
    ∃ console own, session.console? terminal = some console ∧ step.perform depth console = some own ∧
      outcome = ⟨own.ending, session.withConsole terminal own.state, own.events⟩ := by
  obtain ⟨console, found, performed⟩ := Option.bind_eq_some_iff.mp performed
  obtain ⟨own, taken, performed⟩ := Option.bind_eq_some_iff.mp performed
  cases performed
  exact ⟨console, own, found, taken, rfl⟩

theorem perform_frames {depth : Nat} {step : Step} {outcome : Outcome Session Step.Error Step.Reply}
    (performed : session.perform (depth + 1) terminal step = some outcome) :
    session.Frames terminal step outcome := by
  obtain ⟨console, own, found, taken, rfl⟩ := exists_of_perform performed
  obtain ⟨seat, sits, -, -, -⟩ := exists_seat found
  -- The step's outcome where it reads and its flush is refused.
  have refused {refusal : IoError → Step.Error} {error : IoError} (reads : step.Reads refusal)
      (wanted : console.settings.flushBeforeInput = true) (refuses : console.sink.Refuses error) :
      own.ending = .failed (refusal error) ∧ own.state.stream = console.stream := by
    obtain ⟨read, gated, performs⟩ := reads.perform depth
    rw [performs, gated.refused wanted refuses] at taken
    cases taken
    exact ⟨rfl, rfl⟩
  constructor
  case terminals =>
      intro other different
      rw [withConsole_eq sits, List.getElem?_set_ne different.symm]
  case streams =>
      intro seat' place sits' away
      cases sits.symm.trans sits'
      rw [withConsole_eq sits, List.getElem?_set_ne away]
  case idle =>
      rintro (writes | ⟨refusal, console', error, reads, found', wanted, refuses⟩)
      · obtain ⟨action, blind, performs⟩ := writes.perform depth
        cases (performs console).symm.trans taken
        exact mended_withConsole found (blind.stream_eq console)
      · cases found.symm.trans found'
        exact mended_withConsole found (refused reads wanted refuses).2
  case refused =>
      intro refusal console' error reads found' wanted refuses
      cases found.symm.trans found'
      exact (refused reads wanted refuses).1

/-- Sessions that differ in their sinks only cannot be told apart by a read whose flush passes in both. -/
theorem perform_of_passes {depth : Nat} {read : Step} {refusal : IoError → Step.Error} {sink : Sink}
    (same : after.mended = before.mended) (reads : read.Reads refusal)
    (found : before.console? terminal = some console) (found' : after.console? terminal = some left)
    (passes : left.sink.Passes) (passes' : sink.Passes) :
    (after.perform (depth + 1) terminal read).map Outcome.ending =
      (read.perform (depth + 1) { console with sink }).map Outcome.ending := by
  obtain ⟨action, gated, performs⟩ := reads.perform depth
  have alike := eq_of_mended same found found'
  rw [perform, found', Option.bind_eq_bind, Option.bind_some, performs, performs, Option.bind_eq_bind,
    Option.bind_some, Option.map_some]
  have ended := (gated.passed passes passes').1
  rw [alike] at ended ⊢
  exact congrArg some ended.symm

/-! ### Runs -/

/-- Each outcome is related to the step that it is of and to the session that the step was taken in. -/
inductive Along (related : Session → Nat → Step → Outcome Session Step.Error Step.Reply → Prop) :
    Session → List (Nat × Step) → List (Outcome Session Step.Error Step.Reply) → Prop where
  | done {session : Session} : Along related session [] []
  | step {session : Session} {terminal : Nat} {step : Step}
      {outcome : Outcome Session Step.Error Step.Reply} {steps : List (Nat × Step)}
      {outcomes : List (Outcome Session Step.Error Step.Reply)}
      (now : related session terminal step outcome) (later : Along related outcome.state steps outcomes) :
      Along related session ((terminal, step) :: steps) (outcome :: outcomes)

variable {steps : List (Nat × Step)} {outcomes : List (Outcome Session Step.Error Step.Reply)}

theorem run_along {related : Session → Nat → Step → Outcome Session Step.Error Step.Reply → Prop}
    {depth : Nat} (each : ∀ session terminal step outcome,
      perform depth terminal step session = some outcome → related session terminal step outcome)
    (ran : run depth steps session = some outcomes) : Along related session steps outcomes := by
  induction steps generalizing session outcomes with
  | nil =>
      cases ran
      exact .done
  | cons step rest ih =>
      obtain ⟨terminal, step⟩ := step
      obtain ⟨outcome, performed, ran⟩ := Option.bind_eq_some_iff.mp ran
      obtain ⟨others, went, ran⟩ := Option.bind_eq_some_iff.mp ran
      cases ran
      exact .step (each _ _ _ _ performed) (ih went)

/-- A terminal at which no step was taken so far is as it was. -/
theorem Along.terminals (along : Along Frames session steps outcomes) {k other : Nat}
    {outcome : Outcome Session Step.Error Step.Reply} (kth : outcomes[k]? = some outcome)
    (elsewhere : ∀ step ∈ steps.take (k + 1), other ≠ step.1) :
    outcome.state.terminals[other]? = session.terminals[other]? := by
  induction along generalizing k with
  | done => cases kth
  | step frames _ ih =>
      obtain ⟨now, later⟩ := List.forall_mem_cons.mp elsewhere
      have first := frames.terminals other now
      cases k with
      | zero =>
          cases kth
          exact first
      | succ k => exact (ih kth later).trans first

/-- As long as no step does more than write or be refused its flush, sinks are all that changes. -/
theorem Along.mended (along : Along Frames session steps outcomes)
    (idle : Along (fun session terminal step _ => session.Idle terminal step) session steps outcomes)
    {outcome : Outcome Session Step.Error Step.Reply} (among : outcome ∈ outcomes) :
    outcome.state.mended = session.mended := by
  induction along with
  | done => cases among
  | step frames _ ih =>
      cases idle with
      | step now later =>
          have first := frames.idle now
          rcases List.mem_cons.mp among with rfl | among
          · exact first
          · exact (ih later among).trans first

/-- Before they read a line or a token, consoles make one flush call of their sinks, and no write, where
they are set to, and no call at all where they are not. If the flush is refused, whatever the error, the
read fails with it and has not touched the stream; made again until a flush succeeds, it comes to what it
would have come to at first. Writing and flushing neither read from the stream nor change it, whether they
succeed or not. The same holds of the root class's methods. In a session no step at one terminal reaches
the sink of another, nor a stream that the terminal does not read from. As long as nothing is done but
writing and reads that are refused their flush, wherever, every stream is as it was, and every read whose
flush then succeeds ends as it would have ended in the beginning. -/
theorem run_frames :
    (FlushesFirst Console.readLine ReadError.io ∧ FlushesFirst Console.readToken ReadError.io ∧
      ∀ method argument, ¬ method.Prints →
        FlushesFirst (Base.call method argument) (Fault.io method)) ∧
    ((∀ text, Blind (Console.write text)) ∧ Blind Console.flush ∧
      ∀ method argument, method.Prints → Blind (Base.call method argument)) ∧
    ∀ depth steps session outcomes, run (depth + 1) steps session = some outcomes →
      Along Frames session steps outcomes ∧
      (∀ k other outcome, outcomes[k]? = some outcome →
        (∀ step ∈ steps.take (k + 1), other ≠ step.1) →
        outcome.state.terminals[other]? = session.terminals[other]?) ∧
      (Along (fun session terminal step _ => session.Idle terminal step) session steps outcomes →
        ∀ outcome ∈ outcomes, outcome.state.streams = session.streams ∧
          ∀ terminal read refusal console left sink, read.Reads refusal →
            session.console? terminal = some console → outcome.state.console? terminal = some left →
            left.sink.Passes → sink.Passes →
            (outcome.state.perform (depth + 1) terminal read).map Outcome.ending =
              (read.perform (depth + 1) { console with sink }).map Outcome.ending) := by
  refine ⟨⟨Console.readLine_gated.flushesFirst, Console.readToken_gated.flushesFirst, ?reads⟩,
    ⟨Console.write_blind, Console.flush_blind, ?writes⟩, ?runs⟩
  case reads =>
      intro method argument reads
      exact (Base.call_gated reads argument).flushesFirst
  case writes =>
      intro method argument prints
      exact Base.call_blind prints argument
  case runs =>
      intro depth steps session outcomes ran
      have along : Along Frames session steps outcomes :=
        run_along (fun _ _ _ _ performed => perform_frames performed) ran
      refine ⟨along, fun k other outcome kth elsewhere => along.terminals kth elsewhere, ?_⟩
      intro idle outcome among
      have same := along.mended idle among
      have streams : outcome.state.mended.streams = session.mended.streams := by rw [same]
      refine ⟨streams, ?_⟩
      intro terminal read refusal console left sink reads found found' passes passes'
      exact perform_of_passes same reads found found' passes passes'

/-- Two terminals of one stream that has a byte pushed back: a flush at the first is interrupted, then a
text and a flush at the second fail. -/
theorem run_frames_refused :
    let stream : Stream := ⟨[.data [0x62, 0x0A]], some 0x61, false, 4, by decide⟩
    let session : Session := ⟨[stream], [⟨{}, .scripted [.refuse ⟨.interrupted, none⟩], 0, true⟩,
      ⟨{}, .scripted [.refuse ⟨.timedOut, none⟩, .refuse ⟨.brokenPipe, none⟩], 0, true⟩]⟩
    let steps : List (Nat × Step) :=
      [(0, .readToken), (1, .call .root .dispatched .print "?"), (1, .flush)]
    ∃ outcomes, run 1 steps session = some outcomes ∧
      outcomes.map Outcome.ending = [.failed (.read (.io ⟨.interrupted, none⟩)),
        .failed (.fault (.io .print ⟨.timedOut, none⟩)), .failed (.io ⟨.brokenPipe, none⟩)] ∧
      ∀ outcome ∈ outcomes, outcome.state.streams = [stream] ∧
        (outcome.state.perform 1 0 .readToken).map Outcome.ending = some (.returned (.text "ab")) := by
  intro stream session steps
  obtain ⟨outcomes, ran⟩ : ∃ outcomes, run 1 steps session = some outcomes := ⟨_, rfl⟩
  have endings : (run 1 steps session).map (List.map Outcome.ending) =
      some [.failed (.read (.io ⟨.interrupted, none⟩)), .failed (.fault (.io .print ⟨.timedOut, none⟩)),
        .failed (.io ⟨.brokenPipe, none⟩)] := rfl
  have sinks : (run 1 steps session).map (List.map fun outcome =>
      (outcome.state.console? 0).map Console.sink) =
      some (List.replicate 3 (some ⟨[], [.flushFailed]⟩)) := rfl
  rw [ran, Option.map_some, Option.some_inj] at endings sinks
  obtain ⟨-, -, runs⟩ := run_frames
  obtain ⟨along, -, kept⟩ := runs 0 steps session outcomes ran
  have idle : Along (fun session terminal step _ => session.Idle terminal step) session steps
      outcomes := by
    simp only [steps] at along ⊢
    obtain _ | ⟨-, _ | ⟨-, _ | ⟨-, _ | _⟩⟩⟩ := along
    have read : session.Idle 0 .readToken := .inr ⟨_, _, _, .readToken, rfl, rfl, rfl⟩
    exact .step read (.step (.inl (.call (fun _ => .root) (.inl rfl) "?")) (.step (.inl .flush) .done))
  refine ⟨outcomes, ran, endings, ?_⟩
  intro outcome among
  obtain ⟨streams, retried⟩ := kept idle outcome among
  refine ⟨streams, ?_⟩
  have sink : (outcome.state.console? 0).map Console.sink ∈ List.replicate 3 (some ⟨[], [.flushFailed]⟩) :=
    sinks ▸ List.mem_map.mpr ⟨outcome, among, rfl⟩
  obtain ⟨left, found, spent⟩ := Option.map_eq_some_iff.mp (List.eq_of_mem_replicate sink)
  have passes : left.sink.Passes := by
    rw [spent]
    intro error refuses
    cases refuses
  have later := retried 0 .readToken _ _ left .reliable .readToken rfl found passes
    fun _ refuses => nomatch refuses
  have ended : (Console.readToken ⟨{}, stream, .reliable⟩).ending = .returned "ab" := by decide +kernel
  exact later.trans (congrArg (fun ending : Ending ReadError String =>
    some ((ending.map Step.Reply.text).mapError Step.Error.read)) ended)

end Session
end RootObject
