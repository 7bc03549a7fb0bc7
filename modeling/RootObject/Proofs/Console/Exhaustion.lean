import Mathlib.Data.List.TakeWhile
import Mathlib.Logic.Function.Iterate
import RootObject.Proofs.Console.Accounting
import RootObject.Proofs.Console.Gate

/-!
Streams whose first capacity is never granted. Whatever gathers text from such a stream fails before it
has read a byte (`Stream.readUntil_of_starved`). A line that is asked for is still there afterwards; a
token is too, and only the blanks in front of it are gone (`Drops`). What asks for no buffer does as on
any other stream (`Bufferless`). So over any run of calls all bytes but blanks are either taken by calls
that returned, or are still to come (`Attempt.solid_conserved`).
-/

namespace RootObject

open RootObject.Action

/-! ### Streams -/

namespace Stream

/-- No buffer that starts at the stream's capacity is granted. -/
def Starved (stream : Stream) : Prop :=
  Buffer.limit ≤ stream.capacity

/-- The stream with another capacity for its buffers. -/
def withCapacity (stream : Stream) (capacity : Nat) (positive : 0 < capacity) : Stream :=
  { stream with capacity, capacity_pos := positive }

/-- The capacity of buffers makes no difference to the action, and stays as it is. -/
def Bufferless {ε α : Type} (action : Action Stream ε α) : Prop :=
  ∀ stream capacity positive, action (stream.withCapacity capacity positive) =
    ⟨(action stream).ending, (action stream).state.withCapacity capacity positive,
      (action stream).events⟩

theorem nextByte_bufferless : Bufferless nextByte := by
  intro stream capacity positive
  obtain ⟨source, pushedBack, atEnd, own, own_pos⟩ := stream
  cases pushedBack with
  | some b => rfl
  | none =>
      cases atEnd with
      | true => rfl
      | false =>
          unfold nextByte withCapacity
          rcases source.read with ⟨_ | _ | _ | _, rest⟩ <;> rfl

theorem peek_bufferless : Bufferless peek := by
  intro stream capacity positive
  unfold peek
  rw [bind_apply, bind_apply, nextByte_bufferless]
  rcases nextByte stream with ⟨(_ | b) | _ | _, rest, events⟩ <;> rfl

theorem nextByte_withCapacity {stream rest : Stream} {ending : Ending IoError (Option UInt8)}
    {events : List Log.Event} (delivered : nextByte stream = ⟨ending, rest, events⟩) (capacity : Nat)
    (positive : 0 < capacity) : nextByte (stream.withCapacity capacity positive) =
      ⟨ending, rest.withCapacity capacity positive, events⟩ := by
  rw [nextByte_bufferless, delivered]

theorem skip_bufferless (unwanted : UInt8 → Bool) (count : Nat) (logged : List Log.Event)
    (stream : Stream) (capacity : Nat) (positive : 0 < capacity) :
    skip unwanted count logged (stream.withCapacity capacity positive) =
      ⟨(skip unwanted count logged stream).ending,
        (skip unwanted count logged stream).state.withCapacity capacity positive,
        (skip unwanted count logged stream).events⟩ := by
  fun_induction skip unwanted count logged stream with
  | case4 count logged stream b rest events delivered passed ih =>
      have same := nextByte_withCapacity delivered capacity positive
      rw [skip]
      split <;> simp_all
  | case5 count logged stream b rest events delivered stopped =>
      have same := nextByte_withCapacity delivered capacity positive
      rw [skip]
      split
      case h_4 other =>
          cases same.symm.trans other
          rw [if_neg stopped]
          rfl
      all_goals simp_all
  | _ =>
      have same := nextByte_withCapacity ‹_› capacity positive
      rw [skip]
      split <;> simp_all

theorem skipWhile_bufferless (unwanted : UInt8 → Bool) : Bufferless (skipWhile unwanted) :=
  skip_bufferless unwanted 0 []

/-! ### What cannot be gathered -/

section Starved

variable {stream : Stream}

/-- Memory for the text is asked for before the first byte. -/
theorem readUntil_of_starved (starved : stream.Starved) (stop : UInt8 → Bool) :
    readUntil stop stream = ⟨.failed (.exhausted stream.capacity), stream, []⟩ := by
  unfold readUntil Buffer.reserve?
  rw [if_neg (Nat.not_lt.mpr starved)]

/-- No blank stands in front: the next byte has been looked at and is none, or there is none. -/
def Unblank (stream : Stream) : Prop :=
  (∃ b, stream.pushedBack = some b ∧ isSpace b = false) ∨
    stream.pushedBack = none ∧ stream.atEnd = true

theorem skipWhile_of_unblank (unblank : stream.Unblank) :
    skipWhile isSpace stream = ⟨.returned 0, stream, []⟩ := by
  rw [skipWhile, skip_eq_bind, bind_apply, Action.mapError]
  rcases unblank with ⟨b, pushed, solid⟩ | ⟨unpushed, ended⟩
  · rw [nextByte_of_pushed pushed]
    obtain ⟨source, pushedBack, atEnd, capacity, positive⟩ := stream
    cases pushed
    simp [Outcome.mapError, Ending.mapError, Outcome.andThen, skipNext, solid, withPushedBack]
  · rw [nextByte_at_end unpushed ended]
    rfl

/-- Where blanks have been skipped none is left in front. -/
theorem unblank_of_skipWhile {count : Nat}
    (returned : (skipWhile isSpace stream).ending = .returned count) :
    (skipWhile isSpace stream).state.Unblank := by
  have halts := stream.skipWhile_halts isSpace returned
  generalize (skipWhile isSpace stream).state = rest at halts
  cases halts with
  | ended accepted coming unpushed atEnd => exact .inr ⟨unpushed, atEnd⟩
  | stopped accepted stops coming pushed atEnd =>
      exact .inl ⟨_, pushed, Demand.unwanted_of_stops accepted stops⟩

/-- How a read of a token ends on a starved stream, and what it leaves: the blanks in front are gone, and
so is a failure that comes behind them. -/
inductive Drops {ε α : Type} (tell : ReadError → ε) (before : Stream) : Ending ε α → Stream → Prop where
  | exhausted {blanks : List UInt8} {after : Stream} (blank : blanks.all isSpace = true)
      (coming : before.arrivals = Arrival.ofBytes blanks ++ after.arrivals) (unblank : after.Unblank) :
      Drops tell before (.failed (tell (.exhausted before.capacity))) after
  | failed {blanks : List UInt8} {after : Stream} {error : IoError} (blank : blanks.all isSpace = true)
      (coming : before.arrivals = Arrival.ofBytes blanks ++ .failure error :: after.arrivals) :
      Drops tell before (.failed (tell (.io error))) after
  | aborted {blanks : List UInt8} {after : Stream} {message : String}
      (blank : blanks.all isSpace = true)
      (coming : before.arrivals = Arrival.ofBytes blanks ++ .abortion message :: after.arrivals) :
      Drops tell before (.aborted message) after

theorem Drops.mapError {ε ε' α : Type} {tell : ReadError → ε} {ending : Ending ε α} {after : Stream}
    (drops : Drops tell stream ending after) (f : ε → ε') :
    Drops (f ∘ tell) stream (ending.mapError f) after := by
  cases drops with
  | exhausted blank coming unblank =>
      exact @Drops.exhausted _ _ (f ∘ tell) _ _ _ blank coming unblank
  | failed blank coming => exact @Drops.failed _ _ (f ∘ tell) _ _ _ _ blank coming
  | aborted blank coming => exact .aborted blank coming

end Starved
end Stream

namespace Console

open RootObject.Stream (Starved Unblank Drops)

variable {ε ε' α β : Type} {stream : Stream}

/-! ### Lines and tokens -/

theorem lineOf_of_starved (starved : stream.Starved) (terminator : LineTerminator) :
    lineOf terminator stream = ⟨.failed (.exhausted stream.capacity), stream, []⟩ := by
  rw [lineOf, bind_apply, Stream.readUntil_of_starved starved]
  rfl

theorem tokenOf_of_starved (starved : stream.Starved) :
    tokenOf stream = ((Stream.skipWhile isSpace).mapError ReadError.io stream).andThen fun _ rest =>
      ⟨.failed (.exhausted stream.capacity), rest, []⟩ := by
  have kept := (stream.skipWhile_meets isSpace).capacity
  rw [tokenOf, bind_apply]
  generalize (Stream.skipWhile isSpace).mapError ReadError.io stream = outcome at kept
  obtain ⟨ending, rest, events⟩ := outcome
  change rest.capacity = stream.capacity at kept
  cases ending with
  | returned count =>
      have starved' : rest.Starved := by rwa [Starved, kept]
      simp only [Outcome.andThen, Stream.readUntil_of_starved starved', kept]
  | failed error => rfl
  | aborted message => rfl

theorem tokenOf_of_unblank (starved : stream.Starved) (unblank : stream.Unblank) :
    tokenOf stream = ⟨.failed (.exhausted stream.capacity), stream, []⟩ := by
  rw [tokenOf_of_starved starved, Action.mapError, Stream.skipWhile_of_unblank unblank]
  rfl

theorem tokenOf_drops (starved : stream.Starved) :
    Drops id stream (tokenOf stream).ending (tokenOf stream).state := by
  obtain ⟨⟨blanks, fares⟩, -⟩ := stream.skipWhile_meets isSpace
  have blank : blanks.all isSpace = true := fares.accepts_segment rfl
  have unblank : ∀ count, (Stream.skipWhile isSpace stream).ending = .returned count →
      (Stream.skipWhile isSpace stream).state.Unblank := fun _ => Stream.unblank_of_skipWhile
  rw [tokenOf_of_starved starved]
  unfold Action.mapError at fares ⊢
  generalize Stream.skipWhile isSpace stream = skipped at fares unblank
  obtain ⟨count | error | message, rest, events⟩ := skipped
  · exact @Drops.exhausted _ _ id _ _ _ blank fares.eq_append_of_returned (unblank count rfl)
  · exact @Drops.failed _ _ id _ _ _ _ blank fares.eq_append_of_failed
  · exact .aborted blank fares.eq_append_of_aborted

/-! ### Reads at a console -/

theorem prepared_healthy {console : Console} (healthy : console.sink.Healthy) :
    console.prepared.Healthy := by
  obtain ⟨flushed, succeeds, healthy'⟩ := Sink.flush_of_healthy healthy
  unfold prepared
  split
  · rwa [succeeds]
  · exact healthy

/-- Where this holds of a starved stream, the read fails for want of a buffer and leaves the stream
alone. -/
def Stalls (read : Action Console ε α) (tell : ReadError → ε) (here : Stream → Prop) : Prop :=
  ∀ console, console.stream.Starved → console.sink.Healthy → here console.stream →
    read console = ⟨.failed (tell (.exhausted console.stream.capacity)),
      { console with sink := console.prepared }, []⟩

/-- However often the read is made, it fails with this error and leaves the stream alone. -/
def Persists (read : Action Console ε α) (error : ε) (console : Console) : Prop :=
  ∀ n, read.endings n console = List.replicate n (.failed error) ∧
    ((fun console => (read console).state)^[n] console).stream = console.stream

namespace Stalls

variable {read : Action Console ε α} {tell : ReadError → ε} {here : Stream → Prop}

theorem mapError (stalls : Stalls read tell here) (f : ε → ε') :
    Stalls (read.mapError f) (f ∘ tell) here := by
  intro console starved healthy now
  rw [Action.mapError, stalls console starved healthy now]
  rfl

theorem bind (stalls : Stalls read tell here) (next : α → Action Console ε β) :
    Stalls (read >>= next) tell here := by
  intro console starved healthy now
  rw [bind_apply, stalls console starved healthy now]
  rfl

theorem persists (stalls : Stalls read tell here) {console : Console}
    (starved : console.stream.Starved) (healthy : console.sink.Healthy) (now : here console.stream) :
    Persists read (tell (.exhausted console.stream.capacity)) console := by
  intro n
  induction n generalizing console with
  | zero => exact ⟨rfl, rfl⟩
  | succ n ih =>
      have first := stalls console starved healthy now
      have left : (read console).state = { console with sink := console.prepared } := by rw [first]
      obtain ⟨endings, stream⟩ := @ih (read console).state (by rwa [left])
        (by rw [left]; exact prepared_healthy healthy) (by rwa [left])
      rw [left] at endings stream
      constructor
      · rw [Action.endings, left, endings, first]
        rfl
      · rw [Function.iterate_succ_apply, left]
        exact stream

end Stalls

/-- At a healthy sink and over a starved stream the read drops blanks and fails, and where none is left it
leaves the stream alone. -/
structure DropsBlanks (read : Action Console ε α) (tell : ReadError → ε) : Prop where
  drops : ∀ console, console.stream.Starved → console.sink.Healthy →
    Drops tell console.stream (read console).ending (read console).state.stream
  capacity : ∀ console, console.stream.Starved → console.sink.Healthy →
    (read console).state.stream.capacity = console.stream.capacity
  sink : ∀ console, console.stream.Starved → console.sink.Healthy →
    (read console).state.sink = console.prepared
  stalls : Stalls read tell Unblank

namespace DropsBlanks

variable {read : Action Console ε α} {tell : ReadError → ε}

theorem mapError (drops : DropsBlanks read tell) (f : ε → ε') :
    DropsBlanks (read.mapError f) (f ∘ tell) where
  drops console starved healthy := (drops.drops console starved healthy).mapError f
  capacity := drops.capacity
  sink := drops.sink
  stalls := drops.stalls.mapError f

theorem state_bind (drops : DropsBlanks read tell) (next : α → Action Console ε β) {console : Console}
    (starved : console.stream.Starved) (healthy : console.sink.Healthy) :
    ((read >>= next) console).state = (read console).state := by
  rcases Action.state_bind read next console with same | ⟨value, returned, -⟩
  · exact same
  · have first := drops.drops console starved healthy
    rw [returned] at first
    cases first

/-- Nothing follows on what never returns. -/
theorem bind (drops : DropsBlanks read tell) (next : α → Action Console ε β) :
    DropsBlanks (read >>= next) tell where
  drops console starved healthy := by
    have first := drops.drops console starved healthy
    rw [drops.state_bind next starved healthy, bind_apply]
    generalize read console = outcome at first ⊢
    obtain ⟨value | error | message, rest, events⟩ := outcome
    · cases first
    · cases first with
      | exhausted blank coming unblank => exact .exhausted blank coming unblank
      | failed blank coming => exact .failed blank coming
    · cases first with
      | aborted blank coming => exact .aborted blank coming
  capacity console starved healthy := by
    rw [drops.state_bind next starved healthy]
    exact drops.capacity console starved healthy
  sink console starved healthy := by
    rw [drops.state_bind next starved healthy]
    exact drops.sink console starved healthy
  stalls := drops.stalls.bind next

/-- Once it has failed for want of a buffer, the read goes on to do so. -/
theorem persists (drops : DropsBlanks read tell) {console : Console} (starved : console.stream.Starved)
    (healthy : console.sink.Healthy) (unblank : (read console).state.stream.Unblank) :
    Persists read (tell (.exhausted console.stream.capacity)) (read console).state := by
  have kept := drops.capacity console starved healthy
  rw [← kept]
  refine drops.stalls.persists ?_ ?_ unblank
  · rwa [Starved, kept]
  · rw [drops.sink console starved healthy]
    exact prepared_healthy healthy

end DropsBlanks

/-- A read whose action fails and leaves the stream alone leaves all but the sink alone. -/
theorem Performs.eq_of_failed {read : Action Console ReadError String} {console : Console}
    {event : String → Log.Event} {action : Action Stream ReadError String} {error : ReadError}
    (performs : Performs read console.settings console.sink console.prepared
      (prepared? console.settings console.sink (logging event action)))
    (healthy : console.sink.Healthy)
    (failed : action console.stream = ⟨.failed error, console.stream, []⟩) :
    read console = ⟨.failed error, { console with sink := console.prepared }, []⟩ := by
  have logged : logging event action console.stream = ⟨.failed error, console.stream, []⟩ := by
    rw [logging, bind_apply, failed]
    rfl
  have whole := performs console.stream
  simp only [prepared?, console.settings.refusal?_of_healthy healthy, logged] at whole
  exact whole

theorem readLine_stalls : Stalls readLine id fun _ => True := by
  intro console starved healthy _
  exact (readLine_performs console.settings console.sink).eq_of_failed healthy
    (lineOf_of_starved starved _)

theorem readToken_drops : DropsBlanks readToken id where
  drops console starved healthy := by
    have reads := readToken_readsBy healthy
    rw [reads.ending, reads.state]
    exact tokenOf_drops starved
  capacity console starved healthy := by
    rw [(readToken_readsBy healthy).state]
    obtain ⟨n, reads⟩ := tokenOf_reads console.stream
    exact reads.capacity
  sink console starved healthy := by rw [(readToken_readsBy healthy).state]
  stalls := by
    intro console starved healthy unblank
    exact (readToken_performs console.settings console.sink).eq_of_failed healthy
      (tokenOf_of_unblank starved unblank)

section Holds

variable {settings : Settings} {capacity : Nat} {bytes : List UInt8} {console : Console}

theorem tokenOf_ends_of_starved (holds : stream.Holds capacity bytes) (starved : stream.Starved) :
    Ends tokenOf stream (.failed (.exhausted capacity))
      (Stream.Holds capacity (bytes.dropWhile isSpace)) := by
  refine ((Stream.skipWhile_ends isSpace holds).mapError ReadError.io).bind fun rest left => ?_
  have starved' : rest.Starved := by rwa [Starved, left.capacity, ← holds.capacity]
  have ends := Ends.of_eq (Stream.readUntil_of_starved starved' isSpace)
  rw [left.capacity] at ends
  refine ⟨ends.ending, ?_⟩
  rw [ends.left]
  exact left

theorem readLine_ends_of_starved (holds : console.Holds settings capacity bytes)
    (starved : console.stream.Starved) :
    Ends readLine console (.failed (.exhausted capacity)) (Holds settings capacity bytes) := by
  have ends := Ends.of_eq (readLine_stalls console starved holds.sink trivial)
  rw [holds.stream.capacity] at ends
  refine ⟨ends.ending, ?_⟩
  rw [ends.left]
  exact ⟨holds.settings, holds.stream, prepared_healthy holds.sink⟩

theorem readToken_ends_of_starved (holds : console.Holds settings capacity bytes)
    (starved : console.stream.Starved) :
    Ends readToken console (.failed (.exhausted capacity))
      (Holds settings capacity (bytes.dropWhile isSpace)) := by
  have reads := readToken_readsBy holds.sink
  have ends := tokenOf_ends_of_starved holds.stream starved
  refine ⟨reads.ending.trans ends.ending, ?_⟩
  rw [reads.state]
  exact ⟨holds.settings, ends.left, prepared_healthy holds.sink⟩

end Holds

end Console

namespace Base

open RootObject.Console (Stalls DropsBlanks)

theorem inputLine_stalls : Stalls inputLine (Fault.ofRead .inputLine) fun _ => True :=
  Console.readLine_stalls.mapError (Fault.ofRead .inputLine)

theorem inputLiteral_drops {α : Type} (method : Method) (expected : LiteralKind)
    (parse : String → Except LiteralError α) (parsed : α → Log.Event) :
    DropsBlanks (inputLiteral method expected parse parsed) (Fault.ofRead method) :=
  (Console.readToken_drops.mapError (Fault.ofRead method)).bind _

end Base

/-! ### Runs of calls -/

/-- A call that reads: from the stream itself, or by a method of the root class at a console with these
settings and this sink. -/
inductive Attempt where
  | read (read : Read)
  | input {method : Method} (reads : ¬ method.Prints) (argument : method.Argument)
      (settings : Console.Settings) (sink : Sink)

namespace Attempt

/-- What a call brings. -/
inductive Reply where
  | read (reply : Operation.Reply)
  | method {method : Method} (reply : method.Reply)

/-- Why a call brings nothing. -/
inductive Error where
  | read (error : ReadError)
  | fault (fault : Fault)
  deriving DecidableEq

/-- The call on a stream. -/
def onStream : Attempt → Action Stream Error Reply
  | .read asked => fun stream => ((asked.onStream stream).map .read).mapError .read
  | @input method _ argument settings sink => fun stream =>
      let outcome := Base.call method argument ⟨settings, stream, sink⟩
      ⟨(outcome.ending.map .method).mapError .fault, outcome.state.stream, outcome.events⟩

/-- The sink that the call flushes, if it flushes one, refuses nothing. -/
def Ready : Attempt → Prop
  | .read (.line _ sink) | .read (.token _ sink) | .input _ _ _ sink => sink.Healthy
  | .read .nextByte | .read .peek | .read (.readUntil _) | .read (.skipWhile _) => True

/-- What came of a call: how it ended, what it took, and what it left. -/
structure Serving where
  ending : Ending Error Reply
  taken : List UInt8
  left : List UInt8

/-- What a call has brought of the bytes it took. -/
def Serving.brought (serving : Serving) : List UInt8 :=
  match serving.ending with
  | .returned _ => serving.taken
  | .failed _ | .aborted _ => []

/-- The call on the bytes that remain, where no buffer of this capacity is granted. -/
def serve (capacity : Nat) : Attempt → List UInt8 → Serving
  | .read .nextByte, bytes => ⟨.returned (.read (.byte bytes.head?)), bytes.take 1, bytes.tail⟩
  | .read .peek, bytes => ⟨.returned (.read (.byte bytes.head?)), [], bytes⟩
  | .read (.skipWhile unwanted), bytes =>
      ⟨.returned (.read (.count (bytes.takeWhile unwanted).length)), bytes.takeWhile unwanted,
        bytes.dropWhile unwanted⟩
  | .read (.readUntil _), bytes | .read (.line _ _), bytes =>
      ⟨.failed (.read (.exhausted capacity)), [], bytes⟩
  | .read (.token _ _), bytes =>
      ⟨.failed (.read (.exhausted capacity)), bytes.takeWhile isSpace, bytes.dropWhile isSpace⟩
  | @input .inputLine _ _ _ _, bytes =>
      ⟨.failed (.fault (.resourceExhausted .inputLine capacity)), [], bytes⟩
  | @input method _ _ _ _, bytes =>
      ⟨.failed (.fault (.resourceExhausted method capacity)), bytes.takeWhile isSpace,
        bytes.dropWhile isSpace⟩

/-- Calls one after another, whatever the earlier ones ended in. -/
def run : List Attempt → Stream → List (Outcome Stream Error Reply)
  | [], _ => []
  | attempt :: rest, stream =>
      attempt.onStream stream :: run rest (attempt.onStream stream).state

/-- Calls one after another on the bytes that remain. -/
def serveAll (capacity : Nat) : List Attempt → List UInt8 → List Serving
  | [], _ => []
  | attempt :: rest, bytes =>
      attempt.serve capacity bytes :: serveAll capacity rest (attempt.serve capacity bytes).left

/-! ### What is taken -/

theorem taken_append (capacity : Nat) (attempt : Attempt) (bytes : List UInt8) :
    (attempt.serve capacity bytes).taken ++ (attempt.serve capacity bytes).left = bytes := by
  cases attempt with
  | read read =>
      cases read with
      | nextByte => cases bytes <;> rfl
      | peek | readUntil _ | line _ _ => rfl
      | skipWhile unwanted => exact List.takeWhile_append_dropWhile
      | token _ _ => exact List.takeWhile_append_dropWhile
  | @input method reads argument settings sink =>
      cases method with
      | inputLine => rfl
      | print | printBool | printInt32 | inputBool | inputInt32 =>
          exact List.takeWhile_append_dropWhile

/-- The bytes that are no blanks. -/
def solid (bytes : List UInt8) : List UInt8 :=
  bytes.filter (!isSpace ·)

theorem solid_append (first second : List UInt8) : solid (first ++ second) = solid first ++ solid second :=
  List.filter_append ..

theorem solid_takeWhile (bytes : List UInt8) : solid (bytes.takeWhile isSpace) = [] := by
  refine List.filter_eq_nil_iff.mpr fun b among => ?_
  simp [List.mem_takeWhile_imp among]

/-- What is taken and not brought are blanks. -/
theorem solid_brought (capacity : Nat) (attempt : Attempt) (bytes : List UInt8) :
    solid (attempt.serve capacity bytes).brought = solid (attempt.serve capacity bytes).taken := by
  cases attempt with
  | read asked =>
      cases asked with
      | nextByte | peek | skipWhile _ | readUntil _ | line _ _ => rfl
      | token _ _ => exact (solid_takeWhile bytes).symm
  | @input method reads argument settings sink =>
      cases method with
      | inputLine => rfl
      | print | printBool | printInt32 | inputBool | inputInt32 => exact (solid_takeWhile bytes).symm

/-- All bytes but blanks have been brought, or are left. -/
theorem solid_conserved {capacity : Nat} {attempts : List Attempt} {bytes : List UInt8} {k : Nat}
    {serving : Serving} (kth : (serveAll capacity attempts bytes)[k]? = some serving) :
    solid (((serveAll capacity attempts bytes).take (k + 1)).flatMap Serving.brought ++ serving.left) =
      solid bytes := by
  induction attempts generalizing bytes k with
  | nil => cases kth
  | cons attempt rest ih =>
      have first : solid bytes = solid (attempt.serve capacity bytes).brought ++
          solid (attempt.serve capacity bytes).left := by
        rw [solid_brought, ← solid_append, taken_append]
      rw [serveAll, List.take_succ_cons, List.flatMap_cons, List.append_assoc, solid_append, first]
      cases k with
      | zero =>
          cases kth
          rfl
      | succ k => rw [ih kth]

/-! ### One call, and runs of them -/

variable {stream : Stream} {capacity : Nat} {bytes : List UInt8}

theorem onStream_ends {attempt : Attempt} (holds : stream.Holds capacity bytes)
    (starved : stream.Starved) (ready : attempt.Ready) :
    Ends attempt.onStream stream (attempt.serve capacity bytes).ending
      (Stream.Holds capacity (attempt.serve capacity bytes).left) := by
  -- What a call ends in is told in its own terms.
  have told {asked : Read} {ending : Ending ReadError Operation.Reply} {left : Stream → Prop}
      (ends : Ends asked.onStream stream ending left) :
      Ends (read asked).onStream stream ((ending.map Reply.read).mapError Error.read) left :=
    (ends.map Reply.read).mapError Error.read
  have atConsole (settings : Console.Settings) {sink : Sink} (healthy : sink.Healthy) :
      Console.Holds settings capacity bytes ⟨settings, stream, sink⟩ := ⟨rfl, holds, healthy⟩
  cases attempt with
  | read asked =>
      cases asked with
      | nextByte => exact @told .nextByte _ _ (@Operation.onStream_ends _ _ _ .nextByte holds trivial)
      | peek => exact @told .peek _ _ (@Operation.onStream_ends _ _ _ .peek holds trivial)
      | skipWhile unwanted =>
          exact @told (.skipWhile unwanted) _ _
            (@Operation.onStream_ends _ _ _ (.skipWhile unwanted) holds trivial)
      | readUntil stop =>
          have ends := Ends.of_eq (Stream.readUntil_of_starved starved stop)
          rw [holds.capacity] at ends
          refine @told (.readUntil stop) _ _ (Ends.bind_failed ⟨ends.ending, ?_⟩)
          rw [ends.left]
          exact holds
      | line settings sink =>
          have ends := Console.readLine_ends_of_starved (atConsole settings ready) starved
          refine @told (.line settings sink) (.failed (.exhausted capacity)) _ ⟨?_, ends.left.stream⟩
          exact congrArg (Ending.map Operation.Reply.text) ends.ending
      | token settings sink =>
          have ends := Console.readToken_ends_of_starved (atConsole settings ready) starved
          refine @told (.token settings sink) (.failed (.exhausted capacity)) _ ⟨?_, ends.left.stream⟩
          exact congrArg (Ending.map Operation.Reply.text) ends.ending
  | @input method reads argument settings sink =>
      have holds' := atConsole settings ready
      -- A method fails as what it reads the token with does.
      have literal {α : Type} (method : Method) (expected : LiteralKind)
          (parse : String → Except LiteralError α) (parsed : α → Log.Event) :
          Ends (Base.inputLiteral method expected parse parsed) ⟨settings, stream, sink⟩
            (.failed (.resourceExhausted method capacity))
            (Console.Holds settings capacity (bytes.dropWhile isSpace)) :=
        ((Console.readToken_ends_of_starved holds' starved).mapError (Fault.ofRead method)).bind_failed
      have failed {method : Method} {argument : method.Argument} {fault : Fault} {left : List UInt8}
          (reads : ¬ method.Prints)
          (ends : Ends (Base.call method argument) ⟨settings, stream, sink⟩ (.failed fault)
            (Console.Holds settings capacity left)) :
          Ends (input reads argument settings sink).onStream stream (.failed (.fault fault))
            (Stream.Holds capacity left) := by
        refine ⟨?_, ends.left.stream⟩
        change ((Base.call method argument ⟨settings, stream, sink⟩).ending.map _).mapError _ = _
        rw [ends.ending]
        rfl
      cases method with
      | print => exact absurd (.inl rfl) reads
      | printBool => exact absurd (.inr (.inl rfl)) reads
      | printInt32 => exact absurd (.inr (.inr rfl)) reads
      | inputLine =>
          exact failed reads ((Console.readLine_ends_of_starved holds' starved).mapError
            (Fault.ofRead .inputLine))
      | inputBool => exact failed reads (literal .inputBool .boolean parseBool _)
      | inputInt32 => exact failed reads (literal .inputInt32 .integer parseInt32 _)

theorem run_eq {attempts : List Attempt} (holds : stream.Holds capacity bytes)
    (starved : stream.Starved) (ready : ∀ attempt ∈ attempts, attempt.Ready) :
    (run attempts stream).map (fun outcome => (outcome.ending, outcome.state.remaining)) =
      (serveAll capacity attempts bytes).map fun serving => (serving.ending, serving.left) := by
  induction attempts generalizing stream bytes with
  | nil => rfl
  | cons attempt rest ih =>
      obtain ⟨now, later⟩ := List.forall_mem_cons.mp ready
      obtain ⟨ending, left⟩ := onStream_ends holds starved now
      have starved' : (attempt.onStream stream).state.Starved := by
        rwa [Stream.Starved, left.capacity, ← holds.capacity]
      simp only [run, serveAll, List.map_cons, ending, left.remaining, ih left starved' later]

end Attempt

/-- What a read of a token comes to at a console over a starved stream, once and again. -/
structure Console.Wants {ε α : Type} (read : Action Console ε α) (tell : ReadError → ε)
    (console : Console) : Prop where
  drops : console.stream.Drops tell (read console).ending (read console).state.stream
  persists : (read console).state.stream.Unblank →
    (read console).state.Persists read (tell (.exhausted console.stream.capacity))

theorem Console.DropsBlanks.wants {ε α : Type} {read : Action Console ε α} {tell : ReadError → ε}
    (drops : DropsBlanks read tell) {console : Console} (starved : console.stream.Starved)
    (healthy : console.sink.Healthy) : console.Wants read tell :=
  ⟨drops.drops console starved healthy, drops.persists starved healthy⟩

/-- Over a stream whose first capacity is never granted, with whatever byte pushed back and whatever left
in its source, and at sinks that refuse nothing: gathering text fails before anything is read, with the
capacity that was asked for. A line that is asked for fails so however often, and leaves the stream as it
was. A token that is asked for drops the blanks in front of it, and ends in what its source fails with
behind them, or else in want of a buffer, and then leaves the stream as it was however often it is asked
for again. Single bytes and skipping do as at any other capacity. So where no failure awaits, over any run
of such calls all bytes but blanks are brought by calls that return, or are left. -/
theorem Stream.starved_loses_blanks (stream : Stream) (starved : stream.Starved) :
    (∀ stop, readUntil stop stream = ⟨.failed (.exhausted stream.capacity), stream, []⟩) ∧
    (Bufferless nextByte ∧ Bufferless peek ∧ ∀ unwanted, Bufferless (skipWhile unwanted)) ∧
    (∀ settings sink, sink.Healthy → let console : Console := ⟨settings, stream, sink⟩
      console.Persists Console.readLine (.exhausted stream.capacity) ∧
      console.Persists Base.inputLine (.resourceExhausted .inputLine stream.capacity) ∧
      console.Wants Console.readToken id ∧ console.Wants Base.inputBool (Fault.ofRead .inputBool) ∧
      console.Wants Base.inputInt32 (Fault.ofRead .inputInt32)) ∧
    ∀ bytes attempts, stream.arrivals = Arrival.ofBytes bytes → (∀ attempt ∈ attempts, attempt.Ready) →
      let servings := Attempt.serveAll stream.capacity attempts bytes
      (Attempt.run attempts stream).map (fun outcome => (outcome.ending, outcome.state.remaining)) =
        servings.map (fun serving => (serving.ending, serving.left)) ∧
      ∀ k serving, servings[k]? = some serving →
        Attempt.solid ((servings.take (k + 1)).flatMap Attempt.Serving.brought ++ serving.left) =
          Attempt.solid bytes := by
  refine ⟨readUntil_of_starved starved, ⟨nextByte_bufferless, peek_bufferless, skipWhile_bufferless⟩,
    ?consoles, ?runs⟩
  case consoles =>
      intro settings sink healthy console
      refine ⟨Console.readLine_stalls.persists starved healthy trivial,
        Base.inputLine_stalls.persists starved healthy trivial,
        Console.readToken_drops.wants starved healthy, ?_, ?_⟩
      · exact (Base.inputLiteral_drops .inputBool .boolean parseBool _).wants starved healthy
      · exact (Base.inputLiteral_drops .inputInt32 .integer parseInt32 _).wants starved healthy
  case runs =>
      intro bytes attempts coming ready servings
      have holds : stream.Holds stream.capacity bytes := ⟨coming, rfl⟩
      exact ⟨Attempt.run_eq holds starved ready, fun _ _ kth => Attempt.solid_conserved kth⟩

/-- A number behind two blanks, the first of them pushed back: it is asked for in vain, taken byte by byte,
and what is behind it is asked for in vain. -/
theorem Stream.starved_loses_blanks_number :
    let stream : Stream := ⟨[.data [0x20, 0x37], .failure ⟨.interrupted, none⟩, .data [0x0A, 0x78]],
      some 0x09, false, Buffer.limit, by decide⟩
    let attempts : List Attempt := [
      .read (.line {} .reliable), @Attempt.input .inputInt32 (by decide) () {} .reliable,
      @Attempt.input .inputLine (by decide) () {} .reliable, .read .nextByte, .read (.token {} .reliable),
      .read .peek]
    stream.Starved ∧
      (Attempt.run attempts stream).map (fun outcome => (outcome.ending, outcome.state.remaining)) = [
        (.failed (.read (.exhausted Buffer.limit)), [0x09, 0x20, 0x37, 0x0A, 0x78]),
        (.failed (.fault (.resourceExhausted .inputInt32 Buffer.limit)), [0x37, 0x0A, 0x78]),
        (.failed (.fault (.resourceExhausted .inputLine Buffer.limit)), [0x37, 0x0A, 0x78]),
        (.returned (.read (.byte (some 0x37))), [0x0A, 0x78]),
        (.failed (.read (.exhausted Buffer.limit)), [0x78]),
        (.returned (.read (.byte (some 0x78))), [0x78])] := by
  intro stream attempts
  have healthy : Sink.reliable.Healthy := fun _ refused => nomatch refused
  have ready : ∀ attempt ∈ attempts, attempt.Ready := by
    simp only [attempts, List.forall_mem_cons]
    exact ⟨healthy, healthy, healthy, trivial, healthy, trivial, fun _ none => nomatch none⟩
  have starved : stream.Starved := Nat.le_refl _
  obtain ⟨-, -, -, runs⟩ := stream.starved_loses_blanks starved
  obtain ⟨served, -⟩ := runs [0x09, 0x20, 0x37, 0x0A, 0x78] attempts rfl ready
  exact ⟨starved, served⟩

end RootObject
