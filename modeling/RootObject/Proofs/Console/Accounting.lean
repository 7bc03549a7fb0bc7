import Mathlib.Data.List.Forall2
import RootObject.Proofs.Console.Demands
import RootObject.Proofs.Input.Operations

/-!
Where the bytes of a source go when reads of it fail. Any reads may follow one another on a stream, its
own and those of consoles. Each takes a segment of what was to come: what it delivers or drops if it
returns, what it loses if it fails. The segments, the byte pushed back and what is not yet read are
the data, in order (`turns_accounted`), whatever fails and whoever goes on after it.
-/

namespace RootObject

/-- A read of a stream: one of its own, or that of a line or a token at a console. The settings and the
sink are those of the console that the read is made at, and may be others at the next. -/
inductive Read where
  | nextByte
  | peek
  | readUntil (stop : UInt8 → Bool)
  | skipWhile (unwanted : UInt8 → Bool)
  | line (settings : Console.Settings) (sink : Sink)
  | token (settings : Console.Settings) (sink : Sink)

namespace Read

open Operation (Reply)

/-- What a read at a console does with the stream. -/
def atConsole (read : Action Console ReadError String) (settings : Console.Settings) (sink : Sink) :
    Action Stream ReadError Reply := fun stream =>
  let outcome := read ⟨settings, stream, sink⟩
  ⟨outcome.ending.map .text, outcome.state.stream, outcome.events⟩

def onStream : Read → Action Stream ReadError Reply
  | .nextByte => Operation.nextByte.onStream
  | .peek => Operation.peek.onStream
  | .readUntil stop => (Operation.readUntil stop).onStream
  | .skipWhile unwanted => (Operation.skipWhile unwanted).onStream
  | .line settings sink => atConsole Console.readLine settings sink
  | .token settings sink => atConsole Console.readToken settings sink

def demand : Read → Demand Reply
  | .nextByte => Demand.nextByte.map .byte
  | .peek => Demand.peek.map .byte
  | .readUntil stop => (Demand.readUntil stop).map .text
  | .skipWhile unwanted => (Demand.skipWhile unwanted).map .count
  | .line settings _ => (Demand.line settings.lineTerminator).map .text
  | .token _ _ => Demand.token.map .text

/-- The sink refuses nothing, and no request for a buffer reaches the limit. -/
def Allowed (stream : Stream) : Read → Prop
  | .nextByte | .peek | .skipWhile _ => True
  | .readUntil stop => stream.GrantsUntil stop
  | .line _ sink => sink.Healthy ∧ stream.GrantsUntil isLineEnd
  | .token _ sink => sink.Healthy ∧ stream.GrantsToken

/-! ### One read -/

theorem map_meets {α β : Type} {stream : Stream} {demand : Demand α}
    {action : Action Stream ReadError α} (f : α → β) (meets : stream.Meets demand (action stream)) :
    stream.Meets (demand.map f) ((do return f (← action) : Action Stream ReadError β) stream) := by
  obtain ⟨⟨segment, fares⟩, kept⟩ := meets
  rw [Action.bind_apply]
  cases outcome : action stream with
  | mk ending rest events =>
      rw [outcome] at fares kept
      cases ending <;> exact ⟨⟨segment, fares.map f⟩, kept⟩

theorem atConsole_meets {settings : Console.Settings} {sink : Sink} {stream : Stream}
    {demand : Demand String} {read : Action Console ReadError String}
    {action : Action Stream ReadError String} (meets : stream.Meets demand (action stream))
    (reads : Console.ReadsBy ⟨settings, stream, sink⟩ (action stream) (read ⟨settings, stream, sink⟩)) :
    stream.Meets (demand.map Reply.text) (atConsole read settings sink stream) := by
  obtain ⟨⟨segment, fares⟩, kept⟩ := meets
  have ending := congrArg (Ending.map Reply.text) reads.ending
  have left := congrArg Console.stream reads.state
  refine ⟨⟨segment, ?_⟩, (congrArg Stream.capacity left).trans kept⟩
  change (demand.map Reply.text).Fares _ (Ending.map Reply.text (Outcome.ending _)) _
    (Console.stream (Outcome.state _)).arrivals
  rw [ending, left]
  exact fares.map Reply.text

/-- A read does what it asks for. -/
theorem onStream_meets {read : Read} {stream : Stream} (allowed : read.Allowed stream) :
    stream.Meets read.demand (read.onStream stream) := by
  cases read with
  | nextByte => exact map_meets Reply.byte stream.nextByte_meets
  | peek => exact map_meets Reply.byte stream.peek_meets
  | readUntil stop => exact map_meets Reply.text (Stream.readUntil_meets stop allowed)
  | skipWhile unwanted => exact map_meets Reply.count (stream.skipWhile_meets unwanted)
  | line settings sink =>
      obtain ⟨healthy, granted⟩ := allowed
      exact atConsole_meets (Console.lineOf_meets _ granted) (Console.readLine_readsBy healthy)
  | token settings sink =>
      obtain ⟨healthy, granted⟩ := allowed
      exact atConsole_meets (Console.tokenOf_meets granted) (Console.readToken_readsBy healthy)

/-! ### Reads one after another -/

/-- A read, the stream it was made on, and what came of it. -/
structure Turn where
  read : Read
  before : Stream
  outcome : Outcome Stream ReadError Reply

/-- Reads one after another, whatever the earlier ones ended in. -/
def turns : List Read → Stream → List Turn
  | [], _ => []
  | read :: rest, stream =>
      ⟨read, stream, read.onStream stream⟩ :: turns rest (read.onStream stream).state

/-- Every read is allowed when its turn comes. -/
def AllAllowed : List Read → Stream → Prop
  | [], _ => True
  | read :: rest, stream => read.Allowed stream ∧ AllAllowed rest (read.onStream stream).state

/-- How a read of a stream accounts for a segment of the bytes that were to come. -/
structure Turn.Accounts (turn : Turn) (segment : List UInt8) : Prop where
  /-- The read ends and takes as it asks to. -/
  fares : turn.read.demand.Fares turn.before.arrivals turn.outcome.ending segment
    turn.outcome.state.arrivals
  /-- No failure stands within the segment of a read that returned. -/
  returned : ∀ reply, turn.outcome.ending = .returned reply →
    turn.before.arrivals = Arrival.ofBytes segment ++ turn.outcome.state.arrivals
  /-- A read fails just where a failure comes before anything stops it. -/
  failed_iff : ∀ error, turn.outcome.ending = .failed error ↔
    ∃ failure bytes rest, error = .io failure ∧ turn.read.demand.accepts bytes = true ∧
      turn.before.arrivals = Arrival.ofBytes bytes ++ .failure failure :: rest
  /-- A read that failed has taken what came before the failure, and what comes behind it is to come. -/
  failed : ∀ failure, turn.outcome.ending = .failed (.io failure) →
    turn.before.arrivals = Arrival.ofBytes segment ++ .failure failure :: turn.outcome.state.arrivals
  /-- Looking at the next byte takes nothing. -/
  peeked : turn.read = .peek → segment = []
  /-- A read of a single byte loses nothing when it fails. -/
  nothing_lost : turn.read = .nextByte → ∀ error, turn.outcome.ending = .failed error → segment = []

theorem Turn.Accounts.of_fares {turn : Turn} {segment : List UInt8}
    (fares : turn.read.demand.Fares turn.before.arrivals turn.outcome.ending segment
      turn.outcome.state.arrivals) : turn.Accounts segment where
  fares := fares
  returned reply ending := by
    rw [ending] at fares
    exact fares.eq_append_of_returned
  failed_iff error := by
    constructor
    · intro ending
      obtain ⟨failure, rfl⟩ := (ending ▸ fares).io_of_failed
      obtain ⟨bytes, rest, accepted, before⟩ := fares.failed_iff.mp ending
      exact ⟨failure, bytes, rest, rfl, accepted, before⟩
    · rintro ⟨failure, bytes, rest, rfl, accepted, before⟩
      exact fares.failed_iff.mpr ⟨bytes, rest, accepted, before⟩
  failed failure ending := by
    rw [ending] at fares
    exact fares.eq_append_of_failed
  peeked isPeek := by
    rw [isPeek] at fares
    have accepted : segment.all (fun _ => false) = true := fares.accepts_segment rfl
    cases segment with
    | nil => rfl
    | cons b rest => cases accepted
  nothing_lost isNext error ending := by
    rw [isNext, ending] at fares
    have accepted : segment.all (fun _ => false) = true := fares.accepts_of_failed
    cases segment with
    | nil => rfl
    | cons b rest => cases accepted

theorem turns_account {reads : List Read} {stream : Stream} (allowed : AllAllowed reads stream) :
    ∃ segments, List.Forall₂ Turn.Accounts (turns reads stream) segments := by
  induction reads generalizing stream with
  | nil => exact ⟨[], .nil⟩
  | cons read rest ih =>
      obtain ⟨now, later⟩ := allowed
      obtain ⟨segment, fares⟩ := (onStream_meets now).fares
      obtain ⟨segments, accounts⟩ := ih later
      exact ⟨segment :: segments, .cons (.of_fares fares) accounts⟩

/-- The segments taken up to a read and what that read leaves are all that was to come. -/
theorem flatten_take_append {reads : List Read} {stream : Stream} {segments : List (List UInt8)}
    (accounts : List.Forall₂ Turn.Accounts (turns reads stream) segments) {k : Nat} {turn : Turn}
    (kth : (turns reads stream)[k]? = some turn) :
    (segments.take (k + 1)).flatten ++ turn.outcome.state.remaining = stream.remaining := by
  induction reads generalizing stream segments k with
  | nil => cases kth
  | cons read rest ih =>
      cases accounts with
      | @cons _ segment _ segments now later =>
          have taken := now.fares.conserved
          rw [← Stream.remaining_eq, ← Stream.remaining_eq] at taken
          rw [List.take_succ_cons, List.flatten_cons, List.append_assoc]
          cases k with
          | zero =>
              cases kth
              exact taken
          | succ k =>
              rw [ih later kth]
              exact taken

/-- However reads of a source fail: each read of the stream over it takes a segment of what was to come,
and the segments taken so far, the byte pushed back and the data not yet read are the data of the source
up to its first end. A read that returns takes its segment from between two failures. A read fails where
a failure comes before what would stop it, with the error of that failure; the bytes it had taken are
lost, and the next read starts behind the failure. -/
theorem turns_accounted (source : Source) (capacity : Nat) (reads : List Read)
    (allowed : AllAllowed reads (Stream.ofSource source capacity)) :
    ∃ segments,
      List.Forall₂ Turn.Accounts (turns reads (Stream.ofSource source capacity)) segments ∧
      ∀ k turn, (turns reads (Stream.ofSource source capacity))[k]? = some turn →
        (segments.take (k + 1)).flatten ++ turn.outcome.state.remaining = source.data := by
  obtain ⟨segments, accounts⟩ := turns_account allowed
  refine ⟨segments, accounts, fun k turn kth => ?_⟩
  exact flatten_take_append accounts kth

/-- A failure behind a byte that was pushed back, one within a token, and reads that go on behind them. -/
theorem turns_accounted_broken :
    let stream := Stream.ofSource [.data [0x61, 0x62], .failure ⟨.brokenPipe, none⟩,
      .data [0x63, 0x20, 0x64, 0x0A], .failure ⟨.interrupted, none⟩, .data [0x20, 0x65],
      .failure ⟨.timedOut, none⟩, .data [0x66, 0x20, 0x0A], .nothing, .data [0x7A]] 1
    let reads := [.peek, .readUntil isSpace, .line {} .reliable, .token {} (.scripted [.acceptAtMost 0]),
      .nextByte, .skipWhile isSpace, .token ⟨.keep, false⟩ .reliable]
    AllAllowed reads stream ∧
      (turns reads stream).map (fun turn => (turn.outcome.ending, turn.outcome.state.remaining)) = [
        (.returned (.byte (some 0x61)),
          [0x61, 0x62, 0x63, 0x20, 0x64, 0x0A, 0x20, 0x65, 0x66, 0x20, 0x0A]),
        (.failed (.io ⟨.brokenPipe, none⟩), [0x63, 0x20, 0x64, 0x0A, 0x20, 0x65, 0x66, 0x20, 0x0A]),
        (.returned (.text "c d"), [0x20, 0x65, 0x66, 0x20, 0x0A]),
        (.failed (.io ⟨.timedOut, none⟩), [0x66, 0x20, 0x0A]),
        (.returned (.byte (some 0x66)), [0x20, 0x0A]), (.returned (.count 2), []),
        (.returned (.text ""), [])] ∧
      ∃ segments, List.Forall₂ Turn.Accounts (turns reads stream) segments ∧
        segments.flatten = [0x61, 0x62, 0x63, 0x20, 0x64, 0x0A, 0x20, 0x65, 0x66, 0x20, 0x0A] := by
  intro stream reads
  have healthy : ∀ script, (script = [] ∨ script = [Sink.Answer.acceptAtMost 0]) →
      (Sink.scripted script).Healthy := by
    rintro _ (rfl | rfl) error <;> simp [Sink.scripted]
  have allowed : AllAllowed reads stream := by
    refine ⟨trivial, Buffer.granted_of_lt ?_ ?_, ⟨healthy _ (.inl rfl), Buffer.granted_of_lt ?_ ?_⟩,
      ⟨healthy _ (.inr rfl), fun _ _ => Buffer.granted_of_lt ?_ ?_⟩, trivial, trivial,
      ⟨healthy _ (.inl rfl), fun _ _ => Buffer.granted_of_lt ?_ ?_⟩, trivial⟩
    all_goals decide +kernel
  obtain ⟨segments, accounts, conserved⟩ := turns_accounted _ 1 reads allowed
  refine ⟨allowed, by decide +kernel, segments, accounts, ?_⟩
  have all : segments.length = 7 := accounts.length_eq.symm
  have last := conserved 6 _ rfl
  rw [List.take_of_length_le (by omega)] at last
  refine Eq.trans ?_ (last.trans (by decide +kernel))
  have done : (turns reads stream)[6].outcome.state.remaining = [] := by decide +kernel
  exact (List.append_nil _).symm.trans (congrArg (segments.flatten ++ ·) done.symm)

end Read
end RootObject
