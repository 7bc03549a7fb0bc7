import RootObject.Proofs.Input.Demand
import RootObject.Proofs.Input.Reads

/-!
Where reads of a stream come to a halt. A read that returns was stopped by a byte, which is then pushed
back or taken, or by the end (`Stream.Halts`); in the first case it has not looked for the end. A read to
which memory is refused has lost the bytes up to there (`Demand.Settles`).
-/

namespace RootObject

namespace Demand

variable {α β : Type} {demand : Demand α} {before after : List Arrival} {segment : List UInt8}
  {ending : Ending ReadError α}

/-- How a read ends to which memory may be refused: as its demand says, or where that happens. The bytes
up to there, all of them accepted, are lost then. -/
inductive Settles (demand : Demand α) :
    List Arrival → Ending ReadError α → List UInt8 → List Arrival → Prop where
  | fares {before after : List Arrival} {ending : Ending ReadError α} {segment : List UInt8}
      (fares : demand.Fares before ending segment after) : Settles demand before ending segment after
  | exhausted {segment : List UInt8} {after : List Arrival} {requested : Nat}
      (accepted : demand.accepts segment = true) :
      Settles demand (Arrival.ofBytes segment ++ after) (.failed (.exhausted requested)) segment after

/-- No byte that was to come is lost but those that the read takes. -/
theorem Settles.conserved (settles : demand.Settles before ending segment after) :
    segment ++ after.filterMap Arrival.byte? = before.filterMap Arrival.byte? := by
  cases settles with
  | fares fares => exact fares.conserved
  | exhausted accepted => rw [List.filterMap_append, Arrival.filterMap_ofBytes]

/-- Where a read returned, no memory was refused to it. -/
theorem Settles.fares_of_returned {value : α}
    (settles : demand.Settles before (.returned value) segment after) :
    demand.Fares before (.returned value) segment after := by
  cases settles with
  | fares fares => exact fares

/-- Where a failure of the source ended a read, no memory was refused to it. -/
theorem Settles.fares_of_io {error : IoError}
    (settles : demand.Settles before (.failed (.io error)) segment after) :
    demand.Fares before (.failed (.io error)) segment after := by
  cases settles with
  | fares fares => exact fares

theorem Settles.accepts_segment (settles : demand.Settles before ending segment after)
    (leaves : demand.takesLast = false) : demand.accepts segment = true := by
  cases settles with
  | fares fares => exact fares.accepts_segment leaves
  | exhausted accepted => exact accepted

theorem Settles.map (f : α → β) (settles : demand.Settles before ending segment after) :
    (demand.map f).Settles before (ending.map f) segment after := by
  cases settles with
  | fares fares => exact .fares (fares.map f)
  | exhausted accepted => exact @Settles.exhausted _ (demand.map f) _ _ _ accepted

end Demand

namespace Stream

variable {stream rest : Stream} {events : List Log.Event}

/-- Gathering takes the bytes before the first to stop at, or those before the one that memory is
refused for. -/
theorem gather_settles (stop : UInt8 → Bool) (buffer : Buffer) (logged : List Log.Event)
    (stream : Stream) :
    (∃ final : Buffer,
      final.bytes.toList = buffer.bytes.toList ++ Arrival.run (!stop ·) stream.arrivals ∧
      Scans (!stop ·) ReadError.io final stream (gather stop buffer logged stream)) ∨
    ∃ segment requested, segment.all (!stop ·) = true ∧
      (gather stop buffer logged stream).ending = .failed (.exhausted requested) ∧
      stream.arrivals = Arrival.ofBytes segment ++ (gather stop buffer logged stream).state.arrivals := by
  obtain ⟨last, rounds, closes | refuses⟩ := Gathering.exists_last stop ⟨buffer, logged, stream⟩
  · exact .inl ⟨last.buffer, closes.spec rounds⟩
  · exact .inr (refuses.spec rounds)

/-- Reading up to a byte takes what it asks for, or loses what memory was refused for. -/
theorem readUntil_settles (stop : UInt8 → Bool) (stream : Stream) :
    stream.Meets (Demand.readUntil stop) (readUntil stop stream) ∨
    ∃ segment requested, (Demand.readUntil stop).accepts segment = true ∧
      (readUntil stop stream).ending = .failed (.exhausted requested) ∧
      stream.arrivals = Arrival.ofBytes segment ++ (readUntil stop stream).state.arrivals := by
  rcases readUntil_cases stop stream with read | read
  · rw [read]
    exact .inr ⟨[], stream.capacity, rfl, rfl, rfl⟩
  · rw [read]
    rcases gather_settles stop ⟨#[], stream.capacity⟩ [] stream with ⟨final, gathered, scans⟩ |
      ⟨segment, requested, solid, ending, ahead⟩
    · left
      rw [List.nil_append] at gathered
      have text := scans.map fun buffer => Utf8.decode buffer.bytes.toList
      rw [gathered] at text
      exact Scans.meets text
    · exact .inr ⟨segment, requested, solid, by simp [Outcome.map, ending, Ending.map], ahead⟩

/-! ### Where the next byte is known -/

/-- A byte that is pushed back is the next. -/
theorem nextByte_of_pushed {b : UInt8} (pushed : stream.pushedBack = some b) :
    nextByte stream = ⟨.returned (some b), { stream with pushedBack := none }, []⟩ := by
  simp [nextByte, pushed]

/-- Looking at a byte that is pushed back leaves the stream as it is. -/
theorem peek_of_pushed {b : UInt8} (pushed : stream.pushedBack = some b) :
    peek stream = ⟨.returned (some b), stream, []⟩ := by
  obtain ⟨source, _, atEnd, capacity, positive⟩ := stream
  cases pushed
  rfl

/-- Behind the end there is nothing, and the stream stays as it is. -/
theorem nextByte_at_end (unpushed : stream.pushedBack = none) (ended : stream.atEnd = true) :
    nextByte stream = ⟨.returned none, stream, []⟩ := by
  simp [nextByte, unpushed, ended]

theorem peek_at_end (unpushed : stream.pushedBack = none) (ended : stream.atEnd = true) :
    peek stream = ⟨.returned none, stream, []⟩ := by
  unfold peek
  rw [Action.bind_apply, nextByte_at_end unpushed ended]
  rfl

/-! ### Bytes taken -/

/-- The action puts nothing before what is to come, and where a byte is pushed back it takes that byte or
leaves the stream as it is. -/
structure Spends {ε α : Type} (action : Action Stream ε α) : Prop where
  atMost : ∀ stream, (action stream).state.remaining.length ≤ stream.remaining.length
  takes : ∀ stream, stream.pushedBack.isSome →
    (action stream).state = stream ∨
      (action stream).state.remaining.length < stream.remaining.length

section Spends

variable {ε ε' α β : Type} {action : Action Stream ε α}

theorem Spends.of_state {action' : Action Stream ε' β} (spends : Spends action)
    (same : ∀ stream, (action' stream).state = (action stream).state) : Spends action' where
  atMost stream := same stream ▸ spends.atMost stream
  takes stream := same stream ▸ spends.takes stream

protected theorem Spends.mapError (spends : Spends action) (tell : ε → ε') :
    Spends (action.mapError tell) :=
  spends.of_state fun _ => rfl

protected theorem Spends.pure (value : α) : Spends (pure value : Action Stream ε α) where
  atMost _ := Nat.le_refl _
  takes _ _ := .inl rfl

protected theorem Spends.bind {next : α → Action Stream ε β} (spends : Spends action)
    (later : ∀ value, Spends (next value)) : Spends (action >>= next) := by
  constructor
  case atMost =>
      intro stream
      have first := spends.atMost stream
      rcases Action.state_bind action next stream with same | ⟨value, -, same⟩
      · rwa [same]
      · rw [same]
        exact Nat.le_trans ((later value).atMost _) first
  case takes =>
      intro stream pushed
      have first := spends.takes stream pushed
      rcases Action.state_bind action next stream with same | ⟨value, -, same⟩
      · rwa [same]
      · rw [same]
        rcases first with unchanged | less
        · rw [unchanged]
          exact (later value).takes stream pushed
        · exact .inr (Nat.lt_of_le_of_lt ((later value).atMost _) less)

/-- The byte that is delivered is the first of those to come. -/
theorem remaining_of_nextByte {next : Option UInt8}
    (delivered : nextByte stream = ⟨.returned next, rest, events⟩) :
    stream.remaining = next.toList ++ rest.remaining := by
  rw [remaining_eq, remaining_eq, arrivals_of_nextByte delivered]
  cases next <;> rfl

theorem remaining_withPushedBack (unpushed : stream.pushedBack = none) (b : UInt8) :
    (stream.withPushedBack b).remaining = b :: stream.remaining := by
  unfold remaining
  rw [unpushed]
  rfl

theorem nextByte_spends : Spends nextByte := by
  constructor
  case atMost =>
      intro stream
      cases delivered : nextByte stream with
      | mk ending rest events =>
          rw [remaining_eq, remaining_eq, arrivals_of_nextByte delivered]
          rcases ending with next | error | message
          · cases next <;> simp [Arrival.byte?]
          · exact Nat.le_refl _
          · exact Nat.le_refl _
  case takes =>
      intro stream pushed
      obtain ⟨b, pushed⟩ := Option.isSome_iff_exists.mp pushed
      rw [nextByte_of_pushed pushed]
      exact .inr (by simp [remaining, pushed])

theorem peek_spends : Spends peek := by
  constructor
  case atMost =>
      intro stream
      obtain ⟨segment, fares⟩ := stream.peek_meets.fares
      rw [remaining_eq, remaining_eq, ← fares.conserved, List.length_append]
      exact Nat.le_add_left _ _
  case takes =>
      intro stream pushed
      obtain ⟨b, pushed⟩ := Option.isSome_iff_exists.mp pushed
      rw [peek_of_pushed pushed]
      exact .inl rfl

/-- What one more byte makes of a scan: it is done with it, has put it back, or scans on. -/
theorem IsScan.state_cases {κ : Type} {tell : IoError → ε} {scan : κ → Action Stream ε α}
    {next : κ → Option UInt8 → Action Stream ε α} (isScan : IsScan tell scan next) (held : κ)
    (stream : Stream) :
    (scan held stream).state = (nextByte stream).state ∨
      ∃ b, (nextByte stream).ending = .returned (some b) ∧
        ((scan held stream).state = (nextByte stream).state.withPushedBack b ∨
          ∃ held', (scan held stream).state = (scan held' (nextByte stream).state).state) := by
  rw [isScan.begins]
  rcases Action.state_bind (nextByte.mapError tell) (next held) stream with same |
    ⟨b?, returned, same⟩
  · exact .inl same
  · rw [same]
    have delivered := Ending.mapError_eq_returned returned
    cases isScan.onward held b? with
    | done _ does => exact .inl (congrArg Outcome.state (does _))
    | stopped does => exact .inr ⟨_, delivered, .inl (congrArg Outcome.state (does _))⟩
    | @goesOn b held' _ does => exact .inr ⟨_, delivered, .inr ⟨held', by rw [does]; rfl⟩⟩

theorem IsScan.spends {κ : Type} {tell : IoError → ε} {scan : κ → Action Stream ε α}
    {next : κ → Option UInt8 → Action Stream ε α} (isScan : IsScan tell scan next) (held : κ) :
    Spends (scan held) := by
  have atMost : ∀ held stream,
      (scan held stream).state.remaining.length ≤ stream.remaining.length := by
    intro held stream
    -- A byte that is delivered leaves a smaller stream.
    induction size : stream.size using Nat.strongRecOn generalizing held stream with
    | ind _ ih =>
        subst size
        have first := nextByte_spends.atMost stream
        rcases isScan.state_cases held stream with same | ⟨b, returned, stopped | ⟨held', same⟩⟩
        · rwa [same]
        · rw [stopped, remaining_of_nextByte (Outcome.eq_of_ending returned),
            remaining_withPushedBack (pushedBack_nextByte stream)]
          exact Nat.le_refl _
        · have smaller := size_nextByte (Outcome.eq_of_ending returned)
          rw [same]
          exact Nat.le_trans (ih _ smaller held' _ rfl) first
  refine ⟨atMost held, fun stream pushed => ?_⟩
  obtain ⟨b, pushed⟩ := Option.isSome_iff_exists.mp pushed
  have less : ({ stream with pushedBack := none } : Stream).remaining.length <
      stream.remaining.length := by
    simp [remaining, pushed]
  have taken := nextByte_of_pushed pushed
  rcases isScan.state_cases held stream with same | ⟨c, returned, stopped | ⟨held', same⟩⟩
  · rw [same, taken]
    exact .inr less
  · rw [taken] at returned stopped
    cases returned
    left
    rw [stopped]
    obtain ⟨source, _, atEnd, capacity, positive⟩ := stream
    cases pushed
    rfl
  · rw [same, taken]
    exact .inr (Nat.lt_of_le_of_lt (atMost held' _) less)

theorem skipWhile_spends (unwanted : UInt8 → Bool) : Spends (skipWhile unwanted) :=
  (skip_isScan unwanted).spends 0

theorem readUntil_spends (stop : UInt8 → Bool) : Spends (readUntil stop) := by
  have gathers (stream : Stream) : (readUntil stop stream).state = stream ∨
      (readUntil stop stream).state = (gather stop ⟨#[], stream.capacity⟩ [] stream).state := by
    rcases readUntil_cases stop stream with read | read
    · exact .inl (congrArg Outcome.state read)
    · exact .inr (congrArg Outcome.state read)
  constructor
  case atMost =>
      intro stream
      rcases gathers stream with same | same
      · exact Nat.le_of_eq (congrArg (·.remaining.length) same)
      · rw [same]
        exact ((gather_isScan stop).spends _).atMost stream
  case takes =>
      intro stream pushed
      rcases gathers stream with same | same
      · exact .inl same
      · rw [same]
        exact ((gather_isScan stop).spends _).takes stream pushed

end Spends

/-! ### Where a scan rests -/

/-- Where a scan has left the stream: before the byte that stopped it, which is pushed back, or at the
end. -/
def Rests (stream rest : Stream) : Prop :=
  rest.pushedBack.isSome ∧ rest.atEnd = stream.atEnd ∨ rest.pushedBack = none ∧ rest.atEnd = true

theorem Rests.of_end (delivered : nextByte stream = ⟨.returned none, rest, events⟩) :
    Rests stream rest := by
  obtain ⟨unpushed, ended⟩ := left_of_nextByte delivered
  exact .inr ⟨unpushed, ended⟩

theorem Rests.of_stop {b : UInt8} (delivered : nextByte stream = ⟨.returned (some b), rest, events⟩) :
    Rests stream (rest.withPushedBack b) :=
  .inl ⟨rfl, (left_of_nextByte delivered).2⟩

/-- A scan that goes on from where another rests, rests as that one would have. -/
theorem Rests.trans {mid last : Stream} (rests : Rests stream mid) (rests' : Rests mid last)
    (emptied : mid.arrivals = [] → last.arrivals = []) : Rests stream last := by
  rcases rests with ⟨-, same⟩ | ⟨unpushed, ended⟩
  · unfold Rests at rests' ⊢
    rwa [same] at rests'
  · rcases rests' with ⟨pushed, -⟩ | ends
    · have nothing := emptied (by simp [arrivals, unpushed, ended, Arrival.ofBytes])
      obtain ⟨b, pushed⟩ := Option.isSome_iff_exists.mp pushed
      simp [arrivals, pushed, Arrival.ofBytes] at nothing
    · exact .inr ends

/-- What a scan passes makes no difference to where it rests. -/
theorem Rests.of_passes {wanted : UInt8 → Bool} {bytes : List UInt8} {mid : Stream}
    (passes : Passes wanted stream bytes mid) (rests : Rests mid rest) : Rests stream rest := by
  unfold Rests at rests ⊢
  rwa [passes.atEnd] at rests

theorem Concludes.rests {ε α : Type} {wanted : UInt8 → Bool} {tell : IoError → ε} {value final : α}
    {logged : List Log.Event} {outcome : Outcome Stream ε α}
    (concludes : Concludes wanted tell value logged stream outcome)
    (returned : outcome.ending = .returned final) : Rests stream outcome.state := by
  cases concludes with
  | stopped delivered unwanted => exact .of_stop delivered
  | ended delivered => exact .of_end delivered
  | failed delivered => cases returned
  | aborted delivered => cases returned

/-- Where a scan rests, the next byte is known already: looking at it changes nothing and logs nothing. -/
theorem Rests.peek_eq (rests : Rests stream rest) :
    peek rest = ⟨.returned rest.pushedBack, rest, []⟩ := by
  rcases rests with ⟨pushed, -⟩ | ⟨unpushed, ended⟩
  · obtain ⟨b, pushed⟩ := Option.isSome_iff_exists.mp pushed
    rw [peek_of_pushed pushed, pushed]
  · rw [peek_at_end unpushed ended, unpushed]

theorem peek_rests (stream : Stream) {next : Option UInt8}
    (returned : (peek stream).ending = .returned next) : Rests stream (peek stream).state := by
  unfold peek at returned ⊢
  rw [Action.bind_apply] at returned ⊢
  cases delivered : nextByte stream with
  | mk ending rest events =>
      rw [delivered] at returned
      cases ending with
      | returned next =>
          cases next with
          | none => exact .of_end delivered
          | some b => exact .of_stop delivered
      | failed error => cases returned
      | aborted message => cases returned

theorem gather_rests (stop : UInt8 → Bool) (buffer : Buffer) (logged : List Log.Event)
    (stream : Stream) {final : Buffer}
    (returned : (gather stop buffer logged stream).ending = .returned final) :
    Rests stream (gather stop buffer logged stream).state := by
  obtain ⟨last, rounds, closes | refuses⟩ := Gathering.exists_last stop ⟨buffer, logged, stream⟩
  · obtain ⟨bytes, passes, -⟩ := Gathering.passes_of_rounds rounds
    exact (closes.concludes.rests returned).of_passes passes
  · obtain ⟨segment, requested, -, failed, -⟩ := refuses.spec rounds
    cases returned.symm.trans failed

theorem skip_rests (unwanted : UInt8 → Bool) (count : Nat) (logged : List Log.Event)
    (stream : Stream) {final : Nat}
    (returned : (skip unwanted count logged stream).ending = .returned final) :
    Rests stream (skip unwanted count logged stream).state := by
  obtain ⟨bytes, mid, passes, concludes⟩ := skip_concludes unwanted count logged stream
  exact (concludes.rests returned).of_passes passes

theorem readUntil_rests (stop : UInt8 → Bool) (stream : Stream) {text : String}
    (returned : (readUntil stop stream).ending = .returned text) :
    Rests stream (readUntil stop stream).state := by
  rcases readUntil_cases stop stream with read | read
  · rw [read] at returned
    cases returned
  · rw [read] at returned ⊢
    obtain ⟨final, gathered, -⟩ := Ending.map_eq_returned returned
    exact gather_rests stop _ [] stream gathered

/-! ### Where reads that return halt -/

/-- Where a read that returned has come to a halt: at the end, behind bytes that it all accepts, or at the
byte that stopped it, and has then not looked for the end. -/
inductive Halts {α : Type} (demand : Demand α) (stream : Stream) : α → Stream → Prop where
  | ended {bytes : List UInt8} {rest : Stream} (accepted : demand.accepts bytes = true)
      (coming : stream.arrivals = Arrival.ofBytes bytes) (unpushed : rest.pushedBack = none)
      (atEnd : rest.atEnd = true) : Halts demand stream (demand.value bytes none) rest
  | stopped {bytes : List UInt8} {b : UInt8} {later : List Arrival} {rest : Stream}
      (accepted : demand.accepts bytes = true) (stops : demand.accepts (bytes ++ [b]) = false)
      (coming : stream.arrivals = Arrival.ofBytes bytes ++ .byte b :: later)
      (pushed : rest.pushedBack = if demand.takesLast then none else some b)
      (atEnd : rest.atEnd = stream.atEnd) : Halts demand stream (demand.value bytes (some b)) rest

/-- A scan that rests at a byte was stopped by it. -/
theorem Halts.of_rests {α : Type} {demand : Demand α} {value : α} {segment : List UInt8}
    (leaves : demand.takesLast = false)
    (fares : demand.Fares stream.arrivals (.returned value) segment rest.arrivals)
    (rests : Rests stream rest) : Halts demand stream value rest := by
  have ahead : ∀ b, rest.pushedBack = some b → rest.arrivals.head? = some (.byte b) := by
    intro b pushed
    simp [arrivals, pushed, Arrival.ofBytes]
  have empty : rest.pushedBack = none ∧ rest.atEnd = true → rest.arrivals = [] := by
    rintro ⟨unpushed, ended⟩
    simp [arrivals, unpushed, ended, Arrival.ofBytes]
  generalize coming : stream.arrivals = before at fares
  generalize left : rest.arrivals = after at fares ahead empty
  cases fares with
  | ended accepted =>
      rcases rests with ⟨pushed, -⟩ | ⟨unpushed, ended⟩
      · obtain ⟨b, pushed⟩ := Option.isSome_iff_exists.mp pushed
        cases ahead b pushed
      · exact .ended accepted coming unpushed ended
  | @stopped _ b later accepted stops _ =>
      rcases rests with ⟨pushed, same⟩ | ends
      · obtain ⟨c, pushed⟩ := Option.isSome_iff_exists.mp pushed
        cases ahead c pushed
        exact .stopped accepted stops coming (by simp [pushed, leaves]) same
      · cases empty ends
  | stoppedBehind _ _ takes => exact absurd leaves (by simp [takes])

theorem readUntil_halts (stop : UInt8 → Bool) (stream : Stream) {text : String}
    (returned : (readUntil stop stream).ending = .returned text) :
    Halts (Demand.readUntil stop) stream text (readUntil stop stream).state := by
  rcases readUntil_settles stop stream with read | ⟨_, _, _, ending, _⟩
  · obtain ⟨segment, fares⟩ := read.fares
    rw [returned] at fares
    exact .of_rests rfl fares (readUntil_rests stop stream returned)
  · cases returned.symm.trans ending

theorem peek_halts (stream : Stream) {next : Option UInt8}
    (returned : (peek stream).ending = .returned next) :
    Halts Demand.peek stream next (peek stream).state := by
  obtain ⟨segment, fares⟩ := stream.peek_meets.fares
  have ending : (peek.mapError ReadError.io stream).ending = .returned next :=
    congrArg (Ending.mapError ReadError.io) returned
  rw [ending] at fares
  exact .of_rests rfl fares (stream.peek_rests returned)

theorem skipWhile_halts (unwanted : UInt8 → Bool) (stream : Stream) {count : Nat}
    (returned : (skipWhile unwanted stream).ending = .returned count) :
    Halts (Demand.skipWhile unwanted) stream count (skipWhile unwanted stream).state := by
  obtain ⟨segment, fares⟩ := (stream.skipWhile_meets unwanted).fares
  have ending : ((skipWhile unwanted).mapError ReadError.io stream).ending = .returned count :=
    congrArg (Ending.mapError ReadError.io) returned
  rw [ending] at fares
  exact .of_rests rfl fares (skip_rests unwanted 0 [] stream returned)

theorem nextByte_halts {next : Option UInt8}
    (delivered : nextByte stream = ⟨.returned next, rest, events⟩) :
    Halts Demand.nextByte stream next rest := by
  obtain ⟨unpushed, atEnd⟩ := left_of_nextByte delivered
  have coming := arrivals_of_nextByte delivered
  cases next with
  | none =>
      rw [arrivals_at_end delivered] at coming
      exact @Halts.ended _ Demand.nextByte _ [] rest rfl coming unpushed atEnd
  | some b => exact @Halts.stopped _ Demand.nextByte _ [] b _ rest rfl rfl coming unpushed atEnd

theorem Halts.map {α β : Type} {demand : Demand α} {value : α} (f : α → β)
    (halts : Halts demand stream value rest) : Halts (demand.map f) stream (f value) rest := by
  cases halts with
  | @ended bytes _ accepted coming unpushed atEnd =>
      exact @Halts.ended _ (demand.map f) _ bytes rest accepted coming unpushed atEnd
  | @stopped bytes b later _ accepted stops coming pushed atEnd =>
      exact @Halts.stopped _ (demand.map f) _ bytes b later rest accepted stops coming pushed atEnd

/-! ### How far a read reaches -/

/-- What a read has been given that read the source so often: the byte pushed back, and what these reads
brought. -/
def given (stream : Stream) (n : Nat) : List Reading :=
  stream.pushedBack.toList.map .byte ++ stream.source.readings n

/-- How far a read reaches that returned: to the byte that stopped it, or to the end, where it has not
been seen already. No read of the source comes after that. -/
inductive Reaches {α : Type} (demand : Demand α) (stream : Stream) (n : Nat) : α → Prop where
  | stopped {bytes : List UInt8} {b : UInt8} (accepted : demand.accepts bytes = true)
      (stops : demand.accepts (bytes ++ [b]) = false)
      (given : stream.given n = (bytes ++ [b]).map .byte) :
      Reaches demand stream n (demand.value bytes (some b))
  | ended {bytes : List UInt8} (accepted : demand.accepts bytes = true)
      (given : stream.given n = bytes.map .byte ++ if stream.atEnd then [] else [.nothing]) :
      Reaches demand stream n (demand.value bytes none)

section Reaches

variable {α ε : Type} {tell : IoError → ε} {action : Action Stream ε α} {n : Nat} {value : α}

/-- A read that returned has been given what it takes and what it puts back, and the end at most. -/
theorem Reads.given_of_returned {segment : List UInt8} (reads : Reads tell action stream n)
    (returned : (action stream).ending = .returned value)
    (conserved : segment ++ (action stream).state.remaining = stream.remaining) :
    stream.given n = (segment ++ (action stream).state.pushedBack.toList).map .byte ++
      if (stream.source.readings n).contains .nothing then [.nothing] else [] := by
  rw [← reads.balance conserved, given, List.map_append, List.append_assoc,
    ← Reading.map_byte_of_plain reads.bytes (reads.plain_of_returned returned)]

/-- Where a read halts, it has reached no further. -/
theorem Halts.reaches {demand : Demand α} {segment : List UInt8}
    (halts : Halts demand stream value (action stream).state)
    (returned : (action stream).ending = .returned value)
    (fares : demand.Fares stream.arrivals (.returned value) segment (action stream).state.arrivals)
    (reads : Reads tell action stream n) : Reaches demand stream n value := by
  have conserved : segment ++ (action stream).state.remaining = stream.remaining := by
    rw [remaining_eq, remaining_eq]
    exact fares.conserved
  have given := reads.given_of_returned returned conserved
  have ended := reads.atEnd
  have still := reads.still
  generalize (action stream).state = rest at halts fares given ended
  cases halts with
  | @stopped bytes b later _ accepted stops coming pushed same =>
      have unended : (stream.source.readings n).contains .nothing = false := by
        cases atEnd : stream.atEnd with
        | true =>
            rw [still atEnd]
            rfl
        | false => rwa [same, atEnd, Bool.false_or, eq_comm] at ended
      refine .stopped accepted stops ?_
      rw [given, unended, pushed]
      rw [coming] at fares
      cases takes : demand.takesLast with
      | true =>
          rw [(fares.unique (.stoppedBehind accepted stops takes)).2.1]
          simp
      | false =>
          rw [(fares.unique (.stopped accepted stops takes)).2.1]
          simp
  | @ended bytes _ accepted coming unpushed atEnd' =>
      refine .ended accepted ?_
      rw [coming] at fares
      rw [given, unpushed, (fares.unique (.ended accepted)).2.1]
      rw [atEnd'] at ended
      cases atEnd : stream.atEnd with
      | true =>
          rw [still atEnd]
          simp [Source.readings]
      | false =>
          rw [atEnd, Bool.false_or] at ended
          rw [← ended]
          simp

end Reaches

end Stream
end RootObject
