import RootObject.Proofs.Console.Logs
import RootObject.Proofs.Session.Frame
import RootObject.Proofs.Session.Invariants

/-!
How often the end of a stream is logged. Whatever a step does, scripts and nested calls included, it logs the
end of its terminal's stream as often as its reads of the source bring nothing, which is a law of consoles
(`Console.lawful_endsOnce`). Since the source is not read again behind that, the end is logged once in a
session at most, for all terminals that read from the stream together (`Session.run_logs`).
-/

namespace RootObject

open Access (Reached)

/-- At most the last of the reads that made this of a stream has brought nothing. -/
theorem Access.Reached.count_nothing_le {stream rest : Stream} {n : Nat}
    (reached : Reached stream n rest) : (stream.source.readings n).count .nothing ≤ 1 := by
  have last := reached.last
  generalize stream.source.readings n = readings at last
  rcases List.eq_nil_or_concat readings with rfl | ⟨before, reading, rfl⟩
  · exact Nat.zero_le 1
  · rw [List.concat_eq_append, List.dropLast_concat] at last
    rw [List.concat_eq_append, List.count_append, List.count_eq_zero.mpr last, Nat.zero_add]
    exact List.count_le_length

/-- Whether one of the reads has brought nothing is how many of them have. -/
theorem Access.Reached.count_nothing {stream rest : Stream} {n : Nat} (reached : Reached stream n rest) :
    (stream.source.readings n).count .nothing =
      if (stream.source.readings n).contains .nothing then 1 else 0 := by
  have most := reached.count_nothing_le
  by_cases seen : .nothing ∈ stream.source.readings n
  · have some := List.count_pos_iff.mpr seen
    rw [if_pos (List.contains_iff_mem.mpr seen)]
    omega
  · rw [if_neg (by simpa using seen), List.count_eq_zero.mpr seen]

namespace Console

/-- The end of the stream is logged as often as reads of the source have brought nothing. -/
def EndsOnce (before : Console) (logged : List Log.Event) (after : Console) : Prop :=
  ∃ n, Reached before.stream n after.stream ∧
    logged.count .endOfStream = (before.stream.source.readings n).count .nothing

theorem EndsOnce.of_untouched {before after : Console} {logged : List Log.Event}
    (same : after.stream = before.stream) (silent : .endOfStream ∉ logged) : EndsOnce before logged after := by
  refine ⟨0, ?_, List.count_eq_zero.mpr silent⟩
  rw [same]
  exact .refl _

theorem EndsOnce.append {first mid last : Console} {logged logged' : List Log.Event}
    (now : EndsOnce first logged mid) (later : EndsOnce mid logged' last) :
    EndsOnce first (logged ++ logged') last := by
  obtain ⟨n, reached, count⟩ := now
  obtain ⟨m, reached', count'⟩ := later
  refine ⟨n + m, reached.trans reached', ?_⟩
  rw [List.count_append, Source.readings_add, List.count_append, count, count', reached.source]

theorem Logs.endsOnce {read : Action Console ReadError String} {event : String → Log.Event}
    (logs : Logs read event) (other : ∀ text, event text ≠ .endOfStream) : Follows EndsOnce read := by
  intro console
  obtain ⟨n, grown, reached, growths, told⟩ := logs console
  refine ⟨n, reached, ?_⟩
  have noGrowth : .endOfStream ∉ grown := fun among => nomatch growths _ among
  have noText : .endOfStream ∉ (read console).ending.logged event := by
    cases (read console).ending with
    | returned text => simpa [Ending.logged] using (other text).symm
    | failed error => exact List.not_mem_nil
    | aborted message => exact List.not_mem_nil
  rw [told, List.count_append, List.count_append, List.count_eq_zero.mpr noGrowth,
    List.count_eq_zero.mpr noText, Nat.zero_add, Nat.add_zero, reached.count_nothing]
  split <;> rfl

theorem lawful_endsOnce : Lawful EndsOnce where
  idle console := .of_untouched rfl List.not_mem_nil
  append now later := now.append later
  parsed console event ofObject := by
    refine .of_untouched rfl ?_
    intro among
    cases List.mem_singleton.mp among
    cases ofObject
  write text console := .of_untouched ((write_blind text).stream_eq console) List.not_mem_nil
  flush console := .of_untouched (flush_blind.stream_eq console) List.not_mem_nil
  readLine := readLine_logs.endsOnce fun _ same => nomatch same
  readToken := readToken_logs.endsOnce fun _ same => nomatch same

end Console

namespace Session

/-- The place of the stream that the terminal reads from. -/
def placeOf (session : Session) (terminal : Nat) : Option Nat :=
  session.terminals[terminal]?.map Terminal.stream

/-- What a step at a terminal logs of the end of a stream, and what becomes of the streams. -/
structure Notes (before : Session) (terminal : Nat) (_step : Step)
    (outcome : Outcome Session Step.Error Step.Reply) : Prop where
  /-- The end of the terminal's own stream is logged as often as the step's reads of the source bring
  nothing, and reads are made up to there only. -/
  own : ∀ place stream, before.placeOf terminal = some place → before.streams[place]? = some stream →
    ∃ n rest, outcome.state.streams[place]? = some rest ∧ Reached stream n rest ∧
      outcome.events.count .endOfStream = (stream.source.readings n).count .nothing
  others : ∀ place, before.placeOf terminal ≠ some place →
    outcome.state.streams[place]? = before.streams[place]?
  places : outcome.state.placeOf = before.placeOf

theorem perform_notes {depth terminal : Nat} {step : Step} {session : Session}
    {outcome : Outcome Session Step.Error Step.Reply}
    (performed : session.perform depth terminal step = some outcome) :
    session.Notes terminal step outcome := by
  obtain ⟨console, own, found, taken, rfl⟩ := exists_of_perform performed
  obtain ⟨seat, sits, present, -, -⟩ := exists_seat found
  obtain ⟨inside, -⟩ := List.getElem?_eq_some_iff.mp present
  have here : session.placeOf terminal = some seat.stream := by
    rw [placeOf, sits, Option.map_some]
  constructor
  case own =>
      intro place stream there present'
      cases here.symm.trans there
      cases present.symm.trans present'
      obtain ⟨n, reached, count⟩ := step.perform_obeys Console.lawful_endsOnce depth console own taken
      refine ⟨n, own.state.stream, ?_, reached, count⟩
      rw [withConsole_eq sits, List.getElem?_set_self inside]
  case others =>
      intro place elsewhere
      have away : seat.stream ≠ place := fun same => elsewhere (same ▸ here)
      rw [withConsole_eq sits, List.getElem?_set_ne away]
  case places =>
      funext other
      unfold placeOf
      rw [withConsole_eq sits]
      by_cases same : terminal = other
      · subst same
        obtain ⟨within, -⟩ := List.getElem?_eq_some_iff.mp sits
        rw [List.getElem?_set_self within, sits]
        rfl
      · rw [List.getElem?_set_ne same]

/-- What is logged, in order, by the steps at all terminals that read from the stream at this place. -/
def logOf (session : Session) (place : Nat) (steps : List (Nat × Step))
    (outcomes : List (Outcome Session Step.Error Step.Reply)) : List Log.Event :=
  ((steps.zip outcomes).filter fun taken => session.placeOf taken.1.1 = some place).flatMap
    fun taken => taken.2.events

theorem logOf_cons_own {session : Session} {place terminal : Nat} {step : Step}
    {outcome : Outcome Session Step.Error Step.Reply} (here : session.placeOf terminal = some place)
    (steps : List (Nat × Step)) (outcomes : List (Outcome Session Step.Error Step.Reply)) :
    session.logOf place ((terminal, step) :: steps) (outcome :: outcomes) =
      outcome.events ++ session.logOf place steps outcomes := by
  simp [logOf, here]

theorem logOf_cons_other {session : Session} {place terminal : Nat} {step : Step}
    {outcome : Outcome Session Step.Error Step.Reply} (elsewhere : session.placeOf terminal ≠ some place)
    (steps : List (Nat × Step)) (outcomes : List (Outcome Session Step.Error Step.Reply)) :
    session.logOf place ((terminal, step) :: steps) (outcome :: outcomes) =
      session.logOf place steps outcomes := by
  simp [logOf, elsewhere]

/-- The end of a stream has been logged as often as the reads made so far have brought nothing. -/
theorem Along.ends {session : Session} {steps : List (Nat × Step)}
    {outcomes : List (Outcome Session Step.Error Step.Reply)} (along : Along Notes session steps outcomes)
    {place : Nat} {stream : Stream} (present : session.streams[place]? = some stream) {k : Nat}
    {outcome : Outcome Session Step.Error Step.Reply} (kth : outcomes[k]? = some outcome) :
    ∃ n rest, outcome.state.streams[place]? = some rest ∧ Reached stream n rest ∧
      (session.logOf place (steps.take (k + 1)) (outcomes.take (k + 1))).count .endOfStream =
        (stream.source.readings n).count .nothing := by
  induction along generalizing stream k with
  | done => cases kth
  | @step session terminal step first steps outcomes notes _ ih =>
      have onward : ∀ {mid : Stream}, first.state.streams[place]? = some mid → ∃ m rest,
          outcome.state.streams[place]? = some rest ∧ Reached mid m rest ∧
            (session.logOf place (steps.take k) (outcomes.take k)).count .endOfStream =
              (mid.source.readings m).count .nothing := by
        intro mid left
        cases k with
        | zero =>
            cases kth
            exact ⟨0, mid, left, .refl mid, rfl⟩
        | succ k =>
            obtain ⟨m, rest, last, reached, count⟩ := ih left kth
            refine ⟨m, rest, last, reached, ?_⟩
            rwa [logOf, ← notes.places, ← logOf]
      by_cases here : session.placeOf terminal = some place
      · obtain ⟨n, mid, left, reached, now⟩ := notes.own place stream here present
        obtain ⟨m, rest, last, reached', later⟩ := onward left
        refine ⟨n + m, rest, last, reached.trans reached', ?_⟩
        rw [List.take_succ_cons, List.take_succ_cons, logOf_cons_own here, List.count_append, now, later,
          Source.readings_add, List.count_append, reached.source]
      · obtain ⟨m, rest, last, reached', later⟩ := onward ((notes.others place here).trans present)
        refine ⟨m, rest, last, reached', ?_⟩
        rw [List.take_succ_cons, List.take_succ_cons, logOf_cons_other here, later]

end Session

/-! ### What is shown -/

namespace Log

theorem Level.rank_le_trace (level : Level) : level.rank ≤ Level.trace.rank := by
  cases level <;> decide

namespace Settings

variable (settings : Settings)

/-- No part's name starts with another's. -/
theorem levelOf_name (target : Target) : settings.levelOf target.name = settings.levelFor target := by
  cases target <;> rfl

/-- The events that are shown are those that the level of their part lets through. -/
theorem shown_eq_filter (events : List Event) : settings.shown events =
    events.filter fun event => event.level.rank ≤ (settings.levelFor event.target).rank := by
  unfold shown enables
  simp only [levelOf_name]

/-- Where every part is at its most talkative, everything is shown. -/
theorem shown_of_trace (all : ∀ target, settings.levelFor target = .trace) (events : List Event) :
    settings.shown events = events := by
  rw [shown_eq_filter, List.filter_eq_self]
  intro event _
  rw [all]
  exact decide_eq_true (Level.rank_le_trace event.level)

end Settings
end Log

namespace Session

/-- Whatever terminals read from a stream and whatever steps are taken at them. A call of a method that
reads logs the growths of its buffer, then the end of the stream if it is the first to come upon it, then
the line or the token it has read, and last the value it returns, if that was parsed; what it did not come
to is not logged. Each step logs the end of a stream as often as its own reads of the source have brought
nothing; up to any step, all terminals together have logged it as often as the reads so far have, which is
once at most. The settings show each event whose level the level of its part lets through, in the same order,
and all of them where every part traces. -/
theorem run_logs :
    (∀ (method : Method) (argument : method.Argument) (console : Console), ¬ method.Prints →
      Base.Logs method argument console) ∧
    (∀ depth steps session outcomes, run depth steps session = some outcomes →
      Along Notes session steps outcomes ∧
      ∀ place stream, session.streams[place]? = some stream → ∀ k outcome, outcomes[k]? = some outcome →
        ∃ n rest, outcome.state.streams[place]? = some rest ∧ Reached stream n rest ∧
          (session.logOf place (steps.take (k + 1)) (outcomes.take (k + 1))).count .endOfStream =
            (stream.source.readings n).count .nothing ∧
          (stream.source.readings n).count .nothing ≤ 1) ∧
    ∀ settings : Log.Settings,
      (∀ events, settings.shown events =
        events.filter fun event => event.level.rank ≤ (settings.levelFor event.target).rank) ∧
      ((∀ target, settings.levelFor target = .trace) → ∀ events, settings.shown events = events) := by
  refine ⟨?calls, ?runs, fun settings => ⟨settings.shown_eq_filter, settings.shown_of_trace⟩⟩
  case calls =>
      intro method argument console reads
      exact Base.call_logs reads argument console
  case runs =>
      intro depth steps session outcomes ran
      have along : Along Notes session steps outcomes :=
        run_along (fun _ _ _ _ performed => perform_notes performed) ran
      refine ⟨along, ?_⟩
      intro place stream present k outcome kth
      obtain ⟨n, rest, left, reached, count⟩ := along.ends present kth
      exact ⟨n, rest, left, reached, count, reached.count_nothing_le⟩

/-- Two terminals of one stream: the first reads a word that outgrows its buffer, the second one that is cut
short by the end, and then the first comes upon the end again. -/
theorem run_logs_two_terminals :
    let stream := Stream.ofSource [.data [0x74, 0x72], .failure ⟨.interrupted, none⟩,
      .data [0x75, 0x65, 0x20, 0x37], .nothing, .data [0x38]] 0
    let session : Session := ⟨[stream], [⟨{}, .reliable, 0, true⟩, ⟨⟨.keep, false⟩, .reliable, 0, true⟩]⟩
    let steps : List (Nat × Step) := [(0, .call .root .direct .inputBool ()),
      (1, .call .root .direct .inputInt32 ()), (0, .readLine)]
    let settings : Log.Settings := { level := .warn, io := some .debug }
    ∃ outcomes, run 1 steps session = some outcomes ∧
      outcomes.map Outcome.events = [
        [.bufferGrown 1 2, .bufferGrown 2 4, .tokenRead "true", .booleanParsed .inputBool true],
        [.endOfStream, .tokenRead "7", .integerParsed .inputInt32 7], [.lineRead 0]] ∧
      (session.logOf 0 steps outcomes).count .endOfStream ≤ 1 ∧
      Base.Logs .inputBool () ⟨{}, stream, .reliable⟩ ∧
      settings.shown [.tokenRead "7", .integerParsed .inputInt32 7, .endOfStream] = [.tokenRead "7"] := by
  intro stream session steps settings
  have events : (run 1 steps session).map (List.map Outcome.events) = some [
      [.bufferGrown 1 2, .bufferGrown 2 4, .tokenRead "true", .booleanParsed .inputBool true],
      [.endOfStream, .tokenRead "7", .integerParsed .inputInt32 7], [.lineRead 0]] := by
    decide +kernel
  obtain ⟨outcomes, ran, told⟩ := Option.map_eq_some_iff.mp events
  obtain ⟨calls, runs, shows⟩ := run_logs
  have three : outcomes.length = 3 := by simpa using congrArg List.length told
  obtain ⟨-, ends⟩ := runs 1 steps session outcomes ran
  obtain ⟨n, rest, -, -, count, most⟩ := ends 0 stream rfl 2 outcomes[2] (List.getElem?_eq_getElem _)
  rw [List.take_of_length_le (by simp [steps]), List.take_of_length_le (by omega)] at count
  refine ⟨outcomes, ran, told, count ▸ most, calls .inputBool () _ (by decide), ?_⟩
  rw [(shows settings).1]
  rfl

end Session
end RootObject
