import RootObject.Proofs.Action
import RootObject.Proofs.Input.Rounds

/-!
Reads of a stream by what they ask for. A demand says which bytes a read accepts, whether it takes the
byte that stops it, and what it returns. From the demand and from what is to come follows how the read
ends, what it takes, and what it leaves to come (`Demand.Fares`). It takes byte after byte up to the one
that stops it or up to the end; a failure that comes before ends it, and then what it has taken is gone.
Nothing else has a part in this (`Fares.unique`), so wherever a stream's read is told by a demand, it
does the same on all streams that are going to bring the same.
-/

namespace RootObject

/-- What a read asks for. -/
structure Demand (α : Type) where
  /-- Whether the read takes these bytes and goes on. -/
  accepts : List UInt8 → Bool
  accepts_of_append : ∀ bytes later, accepts (bytes ++ later) = true → accepts bytes = true
  /-- Whether the byte that stops the read is taken too. -/
  takesLast : Bool
  /-- What is returned for the accepted bytes and the one that stopped the read, if one did. -/
  value : List UInt8 → Option UInt8 → α

namespace Demand

variable {α β : Type}

def map (f : α → β) (demand : Demand α) : Demand β :=
  { demand with value := fun bytes last => f (demand.value bytes last) }

/-- The longest run of wanted bytes; the byte behind them stays. -/
def run (wanted : UInt8 → Bool) (value : List UInt8 → Option UInt8 → α) : Demand α where
  accepts bytes := bytes.all wanted
  accepts_of_append bytes later all := by
    rw [List.all_append, Bool.and_eq_true] at all
    exact all.1
  takesLast := false
  value := value

/-- The demand for the same and the byte behind it. -/
def andLast (demand : Demand α) : Demand α :=
  { demand with takesLast := true }

def peek : Demand (Option UInt8) :=
  run (fun _ => false) fun _ next => next

def nextByte : Demand (Option UInt8) :=
  peek.andLast

def readUntil (stop : UInt8 → Bool) : Demand String :=
  run (!stop ·) fun bytes _ => Utf8.decode bytes

def skipWhile (unwanted : UInt8 → Bool) : Demand Nat :=
  run unwanted fun bytes _ => bytes.length

/-! ### How a read fares -/

/-- How a read ends, what it takes, and what is to come after it, by what was to come before it. -/
inductive Fares (demand : Demand α) :
    List Arrival → Ending ReadError α → List UInt8 → List Arrival → Prop where
  | ended {bytes : List UInt8} (accepted : demand.accepts bytes = true) :
      Fares demand (Arrival.ofBytes bytes) (.returned (demand.value bytes none)) bytes []
  | stopped {bytes : List UInt8} {b : UInt8} {rest : List Arrival}
      (accepted : demand.accepts bytes = true) (stops : demand.accepts (bytes ++ [b]) = false)
      (leaves : demand.takesLast = false) :
      Fares demand (Arrival.ofBytes bytes ++ .byte b :: rest)
        (.returned (demand.value bytes (some b))) bytes (.byte b :: rest)
  | stoppedBehind {bytes : List UInt8} {b : UInt8} {rest : List Arrival}
      (accepted : demand.accepts bytes = true) (stops : demand.accepts (bytes ++ [b]) = false)
      (takes : demand.takesLast = true) :
      Fares demand (Arrival.ofBytes bytes ++ .byte b :: rest)
        (.returned (demand.value bytes (some b))) (bytes ++ [b]) rest
  | failed {bytes : List UInt8} {error : IoError} {rest : List Arrival}
      (accepted : demand.accepts bytes = true) :
      Fares demand (Arrival.ofBytes bytes ++ .failure error :: rest) (.failed (.io error)) bytes rest
  | aborted {bytes : List UInt8} {message : String} {rest : List Arrival}
      (accepted : demand.accepts bytes = true) :
      Fares demand (Arrival.ofBytes bytes ++ .abortion message :: rest) (.aborted message) bytes rest

/-- How a read fares that has accepted some bytes already. -/
def fare (demand : Demand α) (taken : List UInt8) :
    List Arrival → Ending ReadError α × List UInt8 × List Arrival
  | [] => (.returned (demand.value taken none), taken, [])
  | .byte b :: rest =>
      if demand.accepts (taken ++ [b]) then demand.fare (taken ++ [b]) rest
      else if demand.takesLast then
        (.returned (demand.value taken (some b)), taken ++ [b], rest)
      else (.returned (demand.value taken (some b)), taken, .byte b :: rest)
  | .failure error :: rest => (.failed (.io error), taken, rest)
  | .abortion message :: rest => (.aborted message, taken, rest)

theorem fare_append (demand : Demand α) (taken : List UInt8) {bytes : List UInt8}
    (later : List Arrival) (accepted : demand.accepts (taken ++ bytes) = true) :
    demand.fare taken (Arrival.ofBytes bytes ++ later) = demand.fare (taken ++ bytes) later := by
  induction bytes generalizing taken with
  | nil => rw [List.append_nil, Arrival.ofBytes, List.map_nil, List.nil_append]
  | cons b bytes ih =>
      have all : taken ++ b :: bytes = taken ++ [b] ++ bytes := by simp
      rw [all] at accepted ⊢
      have first := demand.accepts_of_append _ _ accepted
      rw [← ih _ accepted]
      change demand.fare taken (.byte b :: (Arrival.ofBytes bytes ++ later)) = _
      rw [fare, if_pos first]

variable {demand : Demand α} {before after after' : List Arrival} {segment segment' : List UInt8}
  {ending ending' : Ending ReadError α}

theorem Fares.fare_eq (fares : demand.Fares before ending segment after) :
    demand.fare [] before = (ending, segment, after) := by
  cases fares with
  | ended accepted =>
      have read := fare_append demand [] [] accepted
      rwa [List.append_nil, List.nil_append, fare] at read
  | stopped accepted stops leaves =>
      rw [fare_append demand [] _ accepted, List.nil_append, fare, if_neg (by simp [stops]),
        if_neg (by simp [leaves])]
  | stoppedBehind accepted stops takes =>
      rw [fare_append demand [] _ accepted, List.nil_append, fare, if_neg (by simp [stops]),
        if_pos takes]
  | failed accepted => rw [fare_append demand [] _ accepted, List.nil_append, fare]
  | aborted accepted => rw [fare_append demand [] _ accepted, List.nil_append, fare]

/-- A read's demand and what is to come leave no choice. -/
theorem Fares.unique (fares : demand.Fares before ending segment after)
    (fares' : demand.Fares before ending' segment' after') :
    ending = ending' ∧ segment = segment' ∧ after = after' := by
  have same := fares.fare_eq.symm.trans fares'.fare_eq
  simpa using same

/-- No byte that was to come is lost but those that the read takes. -/
theorem Fares.conserved (fares : demand.Fares before ending segment after) :
    segment ++ after.filterMap Arrival.byte? = before.filterMap Arrival.byte? := by
  cases fares <;> simp [Arrival.filterMap_ofBytes, List.filterMap_cons, Arrival.byte?]

theorem Fares.accepts_segment (fares : demand.Fares before ending segment after)
    (leaves : demand.takesLast = false) : demand.accepts segment = true := by
  cases fares with
  | stoppedBehind accepted stops takes => exact absurd leaves (by simp [takes])
  | ended accepted => exact accepted
  | stopped accepted => exact accepted
  | failed accepted => exact accepted
  | aborted accepted => exact accepted

/-- A read that returns has met no failure. -/
theorem Fares.eq_append_of_returned {value : α}
    (fares : demand.Fares before (.returned value) segment after) :
    before = Arrival.ofBytes segment ++ after := by
  cases fares <;> simp [Arrival.ofBytes]

/-- A read fails with an error just where that failure comes before anything stops the read. -/
theorem Fares.failed_iff (fares : demand.Fares before ending segment after) {error : IoError} :
    ending = .failed (.io error) ↔ ∃ bytes rest, demand.accepts bytes = true ∧
      before = Arrival.ofBytes bytes ++ .failure error :: rest := by
  constructor
  · rintro rfl
    cases fares with
    | failed accepted => exact ⟨_, _, accepted, rfl⟩
  · rintro ⟨bytes, rest, accepted, rfl⟩
    exact (fares.unique (.failed accepted)).1

theorem Fares.accepts_of_failed {error : ReadError}
    (fares : demand.Fares before (.failed error) segment after) : demand.accepts segment = true := by
  cases fares with
  | failed accepted => exact accepted

/-- A read that fails takes what comes before the failure, and what comes behind it is still to come. -/
theorem Fares.eq_append_of_failed {error : IoError}
    (fares : demand.Fares before (.failed (.io error)) segment after) :
    before = Arrival.ofBytes segment ++ .failure error :: after := by
  cases fares with
  | failed accepted => rfl

theorem Fares.eq_append_of_aborted {message : String}
    (fares : demand.Fares before (.aborted message) segment after) :
    before = Arrival.ofBytes segment ++ .abortion message :: after := by
  cases fares with
  | aborted accepted => rfl

/-- Whatever fails a read is a failure that came. -/
theorem Fares.io_of_failed {error : ReadError}
    (fares : demand.Fares before (.failed error) segment after) : ∃ failure, error = .io failure := by
  cases fares with
  | failed accepted => exact ⟨_, rfl⟩

theorem Fares.map (f : α → β) (fares : demand.Fares before ending segment after) :
    (demand.map f).Fares before (ending.map f) segment after := by
  cases fares with
  | ended accepted => exact @Fares.ended _ (demand.map f) _ accepted
  | stopped accepted stops leaves => exact @Fares.stopped _ (demand.map f) _ _ _ accepted stops leaves
  | stoppedBehind accepted stops takes =>
      exact @Fares.stoppedBehind _ (demand.map f) _ _ _ accepted stops takes
  | failed accepted => exact @Fares.failed _ (demand.map f) _ _ _ accepted
  | aborted accepted => exact @Fares.aborted _ (demand.map f) _ _ _ accepted

/-! ### Runs of wanted bytes -/

/-- What stops a run is not wanted. -/
theorem unwanted_of_stops {wanted : UInt8 → Bool} {bytes : List UInt8} {b : UInt8}
    (accepted : bytes.all wanted = true) (stops : (bytes ++ [b]).all wanted = false) :
    wanted b = false := by
  rw [List.all_append, accepted] at stops
  simpa using stops

/-- What a scan comes upon is not wanted. -/
theorem run_fares (wanted : UInt8 → Bool) (value : List UInt8 → Option UInt8 → α)
    (arrivals : List Arrival) :
    (run wanted value).Fares arrivals
      (((Arrival.halt (Arrival.afterRun wanted arrivals)).1.mapError ReadError.io).map fun _ =>
        value (Arrival.run wanted arrivals)
          ((Arrival.afterRun wanted arrivals).head?.bind Arrival.byte?))
      (Arrival.run wanted arrivals) (Arrival.halt (Arrival.afterRun wanted arrivals)).2 := by
  have all : (run wanted value).accepts (Arrival.run wanted arrivals) = true :=
    Arrival.all_run wanted arrivals
  have whole := Arrival.run_append_afterRun wanted arrivals
  have met := Arrival.head?_afterRun wanted arrivals
  generalize Arrival.run wanted arrivals = bytes at *
  generalize Arrival.afterRun wanted arrivals = later at *
  subst whole
  cases later with
  | nil =>
      rw [List.append_nil]
      exact .ended all
  | cons arrival rest =>
      cases arrival with
      | byte b =>
          have unwanted := met b rfl
          exact Fares.stopped all (by simp [run, unwanted]) rfl
      | failure error => exact Fares.failed all
      | abortion message => exact Fares.aborted all

/-- A scan leaves no wanted byte in front. -/
theorem Fares.head?_of_run {wanted : UInt8 → Bool} {value : List UInt8 → Option UInt8 → α}
    {before after : List Arrival} {segment : List UInt8} {result : α}
    (fares : (run wanted value).Fares before (.returned result) segment after) (b : UInt8)
    (head : after.head? = some (.byte b)) : wanted b = false := by
  cases fares with
  | ended accepted => cases head
  | stopped accepted stops leaves =>
      cases head
      exact unwanted_of_stops accepted stops
  | stoppedBehind accepted stops takes => cases takes

end Demand

namespace Stream

variable {α : Type}

/-- The outcome is what the demand makes of what the stream was going to bring. -/
structure Meets (stream : Stream) (demand : Demand α) (outcome : Outcome Stream ReadError α) :
    Prop where
  fares : ∃ segment, demand.Fares stream.arrivals outcome.ending segment outcome.state.arrivals
  capacity : outcome.state.capacity = stream.capacity

section Meets

variable {stream : Stream} {demand : Demand α} {action : Action Stream ReadError α}
  {ending : Ending ReadError α} {segment : List UInt8} {after : List Arrival}

theorem Meets.ends (meets : stream.Meets demand (action stream))
    (fares : demand.Fares stream.arrivals ending segment after) :
    Action.Ends action stream ending fun rest =>
      rest.arrivals = after ∧ rest.capacity = stream.capacity := by
  obtain ⟨segment', fares'⟩ := meets.fares
  obtain ⟨same, -, left⟩ := fares'.unique fares
  exact ⟨same, left, meets.capacity⟩

theorem Meets.of_ends (fares : demand.Fares stream.arrivals ending segment after)
    (ends : Action.Ends action stream ending fun rest =>
      rest.arrivals = after ∧ rest.capacity = stream.capacity) :
    stream.Meets demand (action stream) := by
  obtain ⟨same, left, kept⟩ := ends
  exact ⟨⟨segment, by rwa [same, left]⟩, kept⟩

end Meets

/-- No request for the buffer of the bytes before the first to stop at reaches the limit. -/
def GrantsUntil (stop : UInt8 → Bool) (stream : Stream) : Prop :=
  Buffer.Granted stream.capacity (Arrival.run (!stop ·) stream.arrivals).length

theorem nextByte_meets (stream : Stream) :
    stream.Meets Demand.nextByte (nextByte.mapError ReadError.io stream) := by
  refine ⟨?_, capacity_nextByte stream⟩
  have first := stream.arrivals_nextByte
  unfold Action.mapError Outcome.mapError
  cases coming : stream.arrivals with
  | nil =>
      rw [coming] at first
      obtain ⟨ending, after⟩ := Prod.mk.inj first
      rw [← ending, ← after]
      exact ⟨[], @Demand.Fares.ended _ _ [] rfl⟩
  | cons arrival rest =>
      rw [coming] at first
      cases arrival with
      | byte b =>
          obtain ⟨ending, after⟩ := Prod.mk.inj first
          rw [← ending, ← after]
          exact ⟨[b], @Demand.Fares.stoppedBehind _ _ [] _ _ rfl rfl rfl⟩
      | failure error =>
          obtain ⟨ending, after⟩ := Prod.mk.inj first
          rw [← ending, ← after]
          exact ⟨[], @Demand.Fares.failed _ _ [] _ _ rfl⟩
      | abortion message =>
          obtain ⟨ending, after⟩ := Prod.mk.inj first
          rw [← ending, ← after]
          exact ⟨[], @Demand.Fares.aborted _ _ [] _ _ rfl⟩

theorem peek_meets (stream : Stream) :
    stream.Meets Demand.peek (peek.mapError ReadError.io stream) := by
  have unpushed := stream.pushedBack_nextByte
  unfold Action.mapError Outcome.mapError peek
  rw [Action.bind_apply]
  cases delivered : nextByte stream with
  | mk ending rest events =>
      have coming := arrivals_of_nextByte delivered
      have kept := capacity_of_nextByte delivered
      rw [delivered] at unpushed
      cases ending with
      | returned next =>
          cases next with
          | none =>
              have empty := arrivals_at_end delivered
              refine ⟨⟨[], ?_⟩, kept⟩
              simp only [coming, Outcome.andThen, Outcome.after, Action.pure_apply, empty]
              exact @Demand.Fares.ended _ _ [] rfl
          | some b =>
              refine ⟨⟨[], ?_⟩, kept⟩
              simp only [coming, Outcome.andThen, Outcome.after, Action.bind_apply, unread,
                Action.pure_apply, arrivals_withPushedBack unpushed]
              exact @Demand.Fares.stopped _ _ [] _ _ rfl rfl rfl
      | failed error =>
          refine ⟨⟨[], ?_⟩, kept⟩
          rw [coming]
          exact @Demand.Fares.failed _ _ [] _ _ rfl
      | aborted message =>
          refine ⟨⟨[], ?_⟩, kept⟩
          rw [coming]
          exact @Demand.Fares.aborted _ _ [] _ _ rfl

theorem Scans.meets {wanted : UInt8 → Bool} {value : List UInt8 → Option UInt8 → α}
    {stream : Stream} {outcome : Outcome Stream ReadError α}
    (scans : Scans wanted ReadError.io
      (value (Arrival.run wanted stream.arrivals)
        ((Arrival.afterRun wanted stream.arrivals).head?.bind Arrival.byte?)) stream outcome) :
    stream.Meets (Demand.run wanted value) outcome := by
  refine ⟨⟨Arrival.run wanted stream.arrivals, ?_⟩, scans.capacity⟩
  rw [scans.ending, scans.arrivals]
  exact Demand.run_fares wanted value stream.arrivals

theorem readUntil_meets (stop : UInt8 → Bool) {stream : Stream} (granted : stream.GrantsUntil stop) :
    stream.Meets (Demand.readUntil stop) (readUntil stop stream) :=
  Scans.meets (readUntil_spec stop stream granted)

theorem skipWhile_meets (unwanted : UInt8 → Bool) (stream : Stream) :
    stream.Meets (Demand.skipWhile unwanted) ((skipWhile unwanted).mapError ReadError.io stream) := by
  have scans := skipWhile_spec unwanted stream
  refine Scans.meets { ending := ?_, arrivals := scans.arrivals, capacity := scans.capacity }
  unfold Action.mapError Outcome.mapError
  rw [scans.ending]
  cases (Arrival.halt (Arrival.afterRun unwanted stream.arrivals)).1 <;> rfl

end Stream
end RootObject
