import RootObject.Proofs.Console.Reads

/-!
What the operations of a stream pull from its source. Each reads the source so many times, takes a
segment of the bytes that come, and reads no further than it must (`Read.Pulls`). Over a run of them the
source is where these reads have left it, the bytes they brought are the segments and the byte pushed
back, and behind the end nothing is read (`turns_pull`).
-/

namespace RootObject

namespace Read

open Operation (Reply)

variable {stream : Stream}

/-! ### Reads at a console -/

/-- The error of the flush before a read, where that fails. -/
def refusal? : Read → Option IoError
  | .line settings sink | .token settings sink => settings.refusal? sink
  | .nextByte | .peek | .readUntil _ | .skipWhile _ => none

theorem atConsole_apply {read : Action Console ReadError String} {settings : Console.Settings}
    {sink left : Sink} {action : Action Stream ReadError String}
    (performs : Console.Performs read settings sink left action) (stream : Stream) :
    atConsole read settings sink stream = (action stream).map Reply.text := by
  unfold atConsole
  rw [performs stream]
  rfl

theorem line_onStream (settings : Console.Settings) (sink : Sink) (stream : Stream) :
    (line settings sink).onStream stream =
      (Console.prepared? settings sink (Console.logging (fun line => .lineRead line.utf8ByteSize)
        (Console.lineOf settings.lineTerminator)) stream).map .text :=
  atConsole_apply (Console.readLine_performs settings sink) stream

theorem token_onStream (settings : Console.Settings) (sink : Sink) (stream : Stream) :
    (token settings sink).onStream stream =
      (Console.prepared? settings sink (Console.logging .tokenRead Console.tokenOf) stream).map .text :=
  atConsole_apply (Console.readToken_performs settings sink) stream

/-- A read whose flush fails leaves the stream alone. -/
theorem onStream_of_refusal {read : Read} {error : IoError} (refused : read.refusal? = some error)
    (stream : Stream) : read.onStream stream = ⟨.failed (.io error), stream, []⟩ := by
  cases read with
  | nextByte | peek | readUntil _ | skipWhile _ => cases refused
  | line settings sink =>
      have refused : settings.refusal? sink = some error := refused
      rw [line_onStream, Console.prepared?, refused]
      rfl
  | token settings sink =>
      have refused : settings.refusal? sink = some error := refused
      rw [token_onStream, Console.prepared?, refused]
      rfl

/-- Behind its flush a line is read as the stream brings it. -/
theorem line_apply {settings : Console.Settings} {sink : Sink} (prepared : settings.refusal? sink = none)
    (stream : Stream) :
    ((line settings sink).onStream stream).ending =
        (Console.lineOf settings.lineTerminator stream).ending.map .text ∧
      ((line settings sink).onStream stream).state =
        (Console.lineOf settings.lineTerminator stream).state := by
  rw [line_onStream, Console.prepared?, prepared]
  obtain ⟨ending, left⟩ := Console.logging_apply (fun line => .lineRead line.utf8ByteSize)
    (Console.lineOf settings.lineTerminator) stream
  exact ⟨congrArg (Ending.map Reply.text) ending, left⟩

theorem token_apply {settings : Console.Settings} {sink : Sink} (prepared : settings.refusal? sink = none)
    (stream : Stream) :
    ((token settings sink).onStream stream).ending = (Console.tokenOf stream).ending.map .text ∧
      ((token settings sink).onStream stream).state = (Console.tokenOf stream).state := by
  rw [token_onStream, Console.prepared?, prepared]
  obtain ⟨ending, left⟩ := Console.logging_apply .tokenRead Console.tokenOf stream
  exact ⟨congrArg (Ending.map Reply.text) ending, left⟩

/-! ### How often a read reads the source -/

theorem onStream_reads (read : Read) (stream : Stream) :
    ∃ n, Stream.Reads ReadError.io read.onStream stream n := by
  have told {α : Type} {action : Action Stream ReadError α} (f : α → Reply)
      (reads : ∃ n, Stream.Reads ReadError.io action stream n) :
      ∃ n, Stream.Reads ReadError.io (do return f (← action)) stream n :=
    Stream.Reads.bind reads fun value _ => ⟨0, .pure (f value)⟩
  cases read with
  | nextByte =>
      obtain ⟨n, reads⟩ := stream.nextByte_reads
      exact told .byte ⟨n, reads.mapError ReadError.io⟩
  | peek =>
      obtain ⟨n, reads⟩ := stream.peek_reads
      exact told .byte ⟨n, reads.mapError ReadError.io⟩
  | readUntil stop => exact told .text (Stream.readUntil_reads stop stream)
  | skipWhile unwanted =>
      obtain ⟨n, reads⟩ := Stream.skipWhile_reads unwanted stream
      exact told .count ⟨n, reads.mapError ReadError.io⟩
  | line settings sink =>
      obtain ⟨n, reads⟩ := Console.prepared?_reads settings sink
        (Console.logging_reads (fun line => .lineRead line.utf8ByteSize)
          (Console.lineOf_reads settings.lineTerminator stream))
      exact ⟨n, reads.map .text fun source => line_onStream settings sink _⟩
  | token settings sink =>
      obtain ⟨n, reads⟩ := Console.prepared?_reads settings sink
        (Console.logging_reads .tokenRead (Console.tokenOf_reads stream))
      exact ⟨n, reads.map .text fun source => token_onStream settings sink _⟩

/-! ### What a read takes -/

/-- How a read ends and what it takes: nothing where the flush before it fails, and else what it asks for,
as far as memory goes. -/
inductive Settles (read : Read) (stream : Stream) : List UInt8 → Prop where
  | refused {error : IoError} (refusal : read.refusal? = some error)
      (same : read.onStream stream = ⟨.failed (.io error), stream, []⟩) : Settles read stream []
  | settled {segment : List UInt8} (prepared : read.refusal? = none)
      (settles : read.demand.Settles stream.arrivals (read.onStream stream).ending segment
        (read.onStream stream).state.arrivals) : Settles read stream segment

theorem onStream_settles (read : Read) (stream : Stream) : ∃ segment, read.Settles stream segment := by
  cases refusal : read.refusal? with
  | some error => exact ⟨[], .refused refusal (onStream_of_refusal refusal stream)⟩
  | none =>
      suffices settles : ∃ segment, read.demand.Settles stream.arrivals (read.onStream stream).ending
          segment (read.onStream stream).state.arrivals by
        obtain ⟨segment, settles⟩ := settles
        exact ⟨segment, .settled refusal settles⟩
      have of_meets (meets : stream.Meets read.demand (read.onStream stream)) :
          ∃ segment, read.demand.Settles stream.arrivals (read.onStream stream).ending segment
            (read.onStream stream).state.arrivals := meets.fares.imp fun _ fares => .fares fares
      cases read with
      | nextByte => exact of_meets (onStream_meets trivial)
      | peek => exact of_meets (onStream_meets trivial)
      | skipWhile unwanted => exact of_meets (onStream_meets trivial)
      | readUntil stop =>
          rcases Stream.readUntil_settles stop stream with meets |
            ⟨segment, requested, accepted, ending, ahead⟩
          · exact of_meets (map_meets Reply.text meets)
          · have whole : (readUntil stop).onStream stream =
                (Stream.readUntil stop stream).map Reply.text := Action.bind_pure_apply _ _ _
            refine ⟨segment, ?_⟩
            rw [whole, ahead]
            change Demand.Settles _ _ ((Stream.readUntil stop stream).ending.map Reply.text) _ _
            rw [ending]
            exact .exhausted accepted
      | line settings sink =>
          obtain ⟨ending, left⟩ := line_apply refusal stream
          obtain ⟨segment, settles⟩ := Console.lineOf_settles settings.lineTerminator stream
          refine ⟨segment, ?_⟩
          rw [ending, left]
          exact settles.map Reply.text
      | token settings sink =>
          obtain ⟨ending, left⟩ := token_apply refusal stream
          obtain ⟨segment, settles⟩ := Console.tokenOf_settles stream
          refine ⟨segment, ?_⟩
          rw [ending, left]
          exact settles.map Reply.text

/-- No byte is lost but those that the read takes. -/
theorem Settles.conserved {read : Read} {segment : List UInt8} (settles : read.Settles stream segment) :
    segment ++ (read.onStream stream).state.remaining = stream.remaining := by
  cases settles with
  | refused refusal same =>
      rw [same]
      rfl
  | settled prepared settles =>
      rw [Stream.remaining_eq, Stream.remaining_eq]
      exact settles.conserved

theorem onStream_spends (read : Read) : Stream.Spends read.onStream := by
  cases refusal : read.refusal? with
  | some error =>
      have same : ∀ stream, (read.onStream stream).state = stream := fun stream => by
        rw [onStream_of_refusal refusal]
      exact ⟨fun stream => Nat.le_of_eq (congrArg (·.remaining.length) (same stream)),
        fun stream _ => .inl (same stream)⟩
  | none =>
      cases read with
      | nextByte =>
          exact (Stream.nextByte_spends.mapError ReadError.io).bind fun next => .pure (Reply.byte next)
      | peek => exact (Stream.peek_spends.mapError ReadError.io).bind fun next => .pure (Reply.byte next)
      | readUntil stop => exact (Stream.readUntil_spends stop).bind fun text => .pure (Reply.text text)
      | skipWhile unwanted =>
          exact ((Stream.skipWhile_spends unwanted).mapError ReadError.io).bind fun n => .pure (Reply.count n)
      | line settings sink =>
          exact (Console.lineOf_spends settings.lineTerminator).of_state fun stream =>
            (line_apply refusal stream).2
      | token settings sink =>
          exact Console.tokenOf_spends.of_state fun stream => (token_apply refusal stream).2

/-! ### How far a read reaches -/

theorem onStream_halts {read : Read} {reply : Reply}
    (returned : (read.onStream stream).ending = .returned reply) :
    stream.Halts read.demand reply (read.onStream stream).state := by
  have prepared : read.refusal? = none := by
    cases refusal : read.refusal? with
    | none => rfl
    | some error =>
        rw [onStream_of_refusal refusal] at returned
        cases returned
  -- What is returned has been told in other terms.
  have told {α : Type} {action : Action Stream ReadError α} {demand : Demand α} {f : α → Reply}
      (same : read.onStream stream = (action stream).map f)
      (asks : read.demand = demand.map f)
      (halts : ∀ value, (action stream).ending = .returned value →
        stream.Halts demand value (action stream).state) :
      stream.Halts read.demand reply (read.onStream stream).state := by
    rw [same] at returned ⊢
    obtain ⟨value, first, rfl⟩ := Ending.map_eq_returned returned
    rw [asks]
    exact (halts value first).map f
  cases read with
  | nextByte =>
      refine told (Action.bind_pure_apply Reply.byte _ _) rfl fun next ended => ?_
      exact Stream.nextByte_halts (Outcome.eq_of_ending (Ending.mapError_eq_returned ended))
  | peek =>
      refine told (Action.bind_pure_apply Reply.byte _ _) rfl fun next ended => ?_
      exact stream.peek_halts (Ending.mapError_eq_returned ended)
  | readUntil stop =>
      exact told (Action.bind_pure_apply Reply.text _ _) rfl fun text => Stream.readUntil_halts stop stream
  | skipWhile unwanted =>
      refine told (Action.bind_pure_apply Reply.count _ _) rfl fun n ended => ?_
      exact Stream.skipWhile_halts unwanted stream (Ending.mapError_eq_returned ended)
  | line settings sink =>
      obtain ⟨ending, left⟩ := line_apply prepared stream
      rw [ending] at returned
      obtain ⟨line, first, rfl⟩ := Ending.map_eq_returned returned
      rw [left]
      exact (Console.lineOf_halts settings.lineTerminator stream first).map Reply.text
  | token settings sink =>
      obtain ⟨ending, left⟩ := token_apply prepared stream
      rw [ending] at returned
      obtain ⟨token, first, rfl⟩ := Ending.map_eq_returned returned
      rw [left]
      exact (Console.tokenOf_halts stream first).map Reply.text

end Read

/-! ### What an access pulls -/

/-- What an operation of a stream pulls from its source. -/
structure Pull where
  /-- How often the source is read. -/
  reads : Nat
  /-- The bytes that are delivered, dropped or lost. -/
  segment : List UInt8

/-- What a read pulls, and what that has to do with how it ends. -/
structure Read.Pulls (read : Read) (stream : Stream) (pull : Pull) : Prop where
  reads : Stream.Reads ReadError.io read.onStream stream pull.reads
  settles : read.Settles stream pull.segment
  /-- The byte pushed back and those that are pulled are what the read takes, and the byte pushed back
  by then. -/
  balance : stream.pushedBack.toList ++ (stream.source.readings pull.reads).filterMap Reading.byte? =
    pull.segment ++ (read.onStream stream).state.pushedBack.toList
  /-- Looking at the next byte takes nothing. -/
  peeked : read = .peek → pull.segment = []
  /-- A read that returned has read the source no further than to the byte that stopped it. -/
  reaches : ∀ reply, (read.onStream stream).ending = .returned reply →
    stream.Reaches read.demand pull.reads reply
  /-- Where a byte is pushed back, only a read that takes bytes changes anything. -/
  spares : stream.pushedBack.isSome → pull.segment = [] → (read.onStream stream).state = stream

theorem Read.onStream_pulls (read : Read) (stream : Stream) : ∃ pull, read.Pulls stream pull := by
  obtain ⟨n, reads⟩ := read.onStream_reads stream
  obtain ⟨segment, settles⟩ := read.onStream_settles stream
  have conserved := settles.conserved
  refine ⟨⟨n, segment⟩, reads, settles, reads.balance conserved, ?peeked, ?reaches, ?spares⟩
  case peeked =>
      rintro rfl
      cases settles with
      | refused refusal => cases refusal
      | settled prepared settles =>
          have accepted : segment.all (fun _ => false) = true := settles.accepts_segment rfl
          cases segment with
          | nil => rfl
          | cons b rest => cases accepted
  case reaches =>
      intro reply returned
      have halts := Read.onStream_halts returned
      cases settles with
      | refused refusal same =>
          rw [same] at returned
          cases returned
      | settled prepared settles =>
          rw [returned] at settles
          exact halts.reaches returned settles.fares_of_returned reads
  case spares =>
      intro pushed taken
      rcases read.onStream_spends.takes stream pushed with same | less
      · exact same
      · subst taken
        rw [← conserved] at less
        exact absurd less (Nat.lt_irrefl _)

/-- At the end only a byte that was pushed back can be taken. -/
theorem Read.Pulls.unchanged_at_end {read : Read} {stream : Stream} {pull : Pull}
    (pulls : read.Pulls stream pull) (unpushed : stream.pushedBack = none) (ended : stream.atEnd = true) :
    (read.onStream stream).state = stream := by
  have none := pulls.reads.still ended
  have source := pulls.reads.source_eq
  have atEnd := pulls.reads.atEnd
  have capacity := pulls.reads.capacity
  have balance := pulls.balance
  rw [none] at source atEnd balance
  rw [unpushed] at balance
  obtain ⟨-, pushed⟩ := List.append_eq_nil_iff.mp balance.symm
  generalize (read.onStream stream).state = rest at source atEnd capacity pushed ⊢
  obtain ⟨source', pushed', atEnd', capacity', positive'⟩ := rest
  obtain ⟨source, _, _, capacity, positive⟩ := stream
  cases ended
  cases unpushed
  cases Option.toList_eq_nil_iff.mp pushed
  cases source
  cases atEnd
  cases capacity
  rfl

/-- An operation of a stream, or a read of it at a console. -/
inductive Access where
  | read (read : Read)
  | unread (b : UInt8)

namespace Access

open Operation (Reply)

def onStream : Access → Action Stream ReadError Reply
  | .read asked => asked.onStream
  | .unread b => (Operation.unread b).onStream

def isRead : Access → Bool
  | .read _ => true
  | .unread _ => false

/-- Whether the access reads a line and leaves its end. -/
def keepsLine : Access → Bool
  | .read (.line settings _) => settings.lineTerminator = .keep
  | _ => false

/-- Taking back a byte pulls nothing. -/
inductive Pulls : Access → Stream → Pull → Prop where
  | read {asked : Read} {stream : Stream} {pull : Pull} (pulls : asked.Pulls stream pull) :
      Pulls (.read asked) stream pull
  | unread {b : UInt8} {stream : Stream} : Pulls (.unread b) stream ⟨0, []⟩

theorem onStream_pulls (access : Access) (stream : Stream) : ∃ pull, access.Pulls stream pull := by
  cases access with
  | read asked =>
      obtain ⟨pull, pulls⟩ := asked.onStream_pulls stream
      exact ⟨pull, .read pulls⟩
  | unread b => exact ⟨⟨0, []⟩, .unread⟩

theorem Pulls.reads {access : Access} {stream : Stream} {pull : Pull} (pulls : access.Pulls stream pull) :
    Stream.Reads ReadError.io access.onStream stream pull.reads := by
  cases pulls with
  | read pulls => exact pulls.reads
  | unread =>
      exact (Stream.unread_reads _ _).mapError ReadError.io |>.map (fun _ => Reply.done) fun _ => rfl

theorem Pulls.balance {access : Access} {stream : Stream} {pull : Pull}
    (pulls : access.Pulls stream pull) (isRead : access.isRead = true) :
    stream.pushedBack.toList ++ (stream.source.readings pull.reads).filterMap Reading.byte? =
      pull.segment ++ (access.onStream stream).state.pushedBack.toList := by
  cases pulls with
  | read pulls => exact pulls.balance
  | unread => cases isRead

/-! ### Accesses one after another -/

/-- An access, the stream it was made on, and what came of it. -/
structure Turn where
  access : Access
  before : Stream
  outcome : Outcome Stream ReadError Reply

/-- Accesses one after another, whatever the earlier ones ended in. -/
def turns : List Access → Stream → List Turn
  | [], _ => []
  | access :: rest, stream =>
      ⟨access, stream, access.onStream stream⟩ :: turns rest (access.onStream stream).state

/-- What an access pulls in its turn. -/
def Turn.Pulls (turn : Turn) (pull : Pull) : Prop :=
  turn.access.Pulls turn.before pull

/-- How often some accesses have read the source. -/
def count : List Pull → Nat
  | [] => 0
  | pull :: pulls => pull.reads + count pulls

@[simp]
theorem count_nil : count [] = 0 := rfl

@[simp]
theorem count_cons (pull : Pull) (pulls : List Pull) :
    count (pull :: pulls) = pull.reads + count pulls := rfl

theorem turns_pulls (accesses : List Access) (stream : Stream) :
    ∃ pulls, List.Forall₂ Turn.Pulls (turns accesses stream) pulls := by
  induction accesses generalizing stream with
  | nil => exact ⟨[], .nil⟩
  | cons access rest ih =>
      obtain ⟨pull, now⟩ := access.onStream_pulls stream
      obtain ⟨pulls, later⟩ := ih (access.onStream stream).state
      exact ⟨pull :: pulls, .cons now later⟩

theorem exists_pull {run : List Turn} {pulls : List Pull} (all : List.Forall₂ Turn.Pulls run pulls)
    {k : Nat} {turn : Turn} (kth : run[k]? = some turn) : ∃ pull, pulls[k]? = some pull ∧ turn.Pulls pull := by
  induction all generalizing k with
  | nil => cases kth
  | @cons _ pull _ _ now _ ih =>
      cases k with
      | zero =>
          cases kth
          exact ⟨pull, rfl, now⟩
      | succ k => exact ih kth

/-- What so many reads of the source have made of the stream. -/
structure Reached (stream : Stream) (n : Nat) (rest : Stream) : Prop where
  source : rest.source = stream.source.after n
  atEnd : rest.atEnd = (stream.atEnd || (stream.source.readings n).contains .nothing)
  /-- Behind the end nothing is read. -/
  still : stream.atEnd = true → n = 0
  last : .nothing ∉ (stream.source.readings n).dropLast

theorem Reached.refl (stream : Stream) : Reached stream 0 stream where
  source := rfl
  atEnd := by simp [Source.readings]
  still _ := rfl
  last := List.not_mem_nil

theorem Reached.of_reads {ε α : Type} {tell : IoError → ε} {action : Action Stream ε α} {stream : Stream}
    {n : Nat} (reads : Stream.Reads tell action stream n) : Reached stream n (action stream).state where
  source := reads.source_eq
  atEnd := reads.atEnd
  still := reads.still
  last among := by cases reads.bytes _ among

theorem Reached.trans {stream mid rest : Stream} {n m : Nat} (first : Reached stream n mid)
    (second : Reached mid m rest) : Reached stream (n + m) rest := by
  have all : stream.source.readings (n + m) =
      stream.source.readings n ++ mid.source.readings m := by
    rw [Source.readings_add, first.source]
  constructor
  case source => rw [second.source, first.source, Source.after_add]
  case atEnd =>
      rw [second.atEnd, first.atEnd, all, Bool.or_assoc]
      simp
  case still =>
      intro ended
      have none := first.still ended
      rw [none, second.still (by rw [first.atEnd, ended, Bool.true_or])]
  case last =>
      rw [all]
      by_cases more : mid.source.readings m = []
      · rw [more, List.append_nil]
        exact first.last
      · rw [List.dropLast_append_of_ne_nil more, List.mem_append]
        rintro (seen | later)
        · have ended : mid.atEnd = true := by
            rw [first.atEnd, List.contains_iff_mem.mpr seen, Bool.or_true]
          rw [second.still ended] at more
          exact more rfl
        · exact second.last later

theorem reached_of_turns {accesses : List Access} {stream : Stream} {pulls : List Pull}
    (all : List.Forall₂ Turn.Pulls (turns accesses stream) pulls) {k : Nat} {turn : Turn}
    (kth : (turns accesses stream)[k]? = some turn) :
    Reached stream (count (pulls.take (k + 1))) turn.outcome.state := by
  induction accesses generalizing stream pulls k with
  | nil => cases kth
  | cons access rest ih =>
      cases all with
      | @cons _ pull _ pulls now later =>
          have first := Reached.of_reads now.reads
          cases k with
          | zero =>
              cases kth
              simpa using first
          | succ k =>
              have onward := first.trans (ih later kth)
              simpa using onward

/-- The bytes that a run of reads pulls are what these take, and the byte pushed back by then. -/
theorem balance_of_turns {accesses : List Access} {stream : Stream} {pulls : List Pull}
    (all : List.Forall₂ Turn.Pulls (turns accesses stream) pulls) {k : Nat} {turn : Turn}
    (kth : (turns accesses stream)[k]? = some turn) (reads : (accesses.take (k + 1)).all isRead = true) :
    stream.pushedBack.toList ++
        (stream.source.readings (count (pulls.take (k + 1)))).filterMap Reading.byte? =
      ((pulls.take (k + 1)).map Pull.segment).flatten ++ turn.outcome.state.pushedBack.toList := by
  induction accesses generalizing stream pulls k with
  | nil => cases kth
  | cons access rest ih =>
      rw [List.take_succ_cons, List.all_cons, Bool.and_eq_true] at reads
      obtain ⟨isRead, reads⟩ := reads
      cases all with
      | @cons _ pull _ pulls now later =>
          have source := (Pulls.reads now).source_eq
          have first := Pulls.balance now isRead
          rw [List.take_succ_cons, count_cons, List.map_cons, List.flatten_cons, Source.readings_add,
            List.filterMap_append, ← List.append_assoc, first, List.append_assoc, List.append_assoc]
          cases k with
          | zero =>
              cases kth
              simp [Source.readings]
          | succ k =>
              have onward := ih later kth reads
              rw [source] at onward
              rw [onward]

/-! ### Lines that leave their ends -/

/-- Before a line end an access that takes nothing changes nothing. -/
theorem Pulls.unchanged {access : Access} {stream : Stream} {pull : Pull}
    (pulls : access.Pulls stream pull) (before : Console.BeforeLineEnd stream)
    (spares : access.keepsLine = true ∨ access.isRead = true ∧ pull.segment = []) :
    (access.onStream stream).state = stream := by
  cases pulls with
  | unread => rcases spares with keeps | ⟨isRead, -⟩ <;> contradiction
  | @read asked _ _ pulled =>
      rcases spares with keeps | ⟨-, taken⟩
      · cases asked with
        | line settings sink =>
            have keep : settings.lineTerminator = .keep := of_decide_eq_true keeps
            cases refusal : settings.refusal? sink with
            | some error =>
                have refused : (Read.line settings sink).refusal? = some error := refusal
                exact congrArg Outcome.state (Read.onStream_of_refusal refused stream)
            | none =>
                obtain ⟨-, left⟩ := Read.line_apply refusal stream
                rw [keep, Console.lineOf_of_beforeLineEnd before] at left
                exact left
        | nextByte | peek | readUntil _ | skipWhile _ | token _ _ => cases keeps
      · rcases before.halted with pushed | ⟨unpushed, ended⟩
        · exact pulled.spares (by rw [pushed]; rfl) taken
        · exact pulled.unchanged_at_end unpushed ended

/-- Before a line end the next line is empty, and the source is not read for it. -/
theorem line_of_beforeLineEnd {settings : Console.Settings} {sink : Sink} {stream : Stream}
    (before : Console.BeforeLineEnd stream) (keep : settings.lineTerminator = .keep)
    (prepared : settings.refusal? sink = none) :
    (Read.line settings sink).onStream stream = ⟨.returned (.text ""), stream, [.lineRead 0]⟩ := by
  rw [Read.line_onStream, Console.prepared?, prepared, keep]
  simp only [Console.logging, Action.bind_apply, Console.lineOf_of_beforeLineEnd before]
  rfl

theorem line_reads_of_beforeLineEnd {settings : Console.Settings} {sink : Sink} {stream : Stream}
    (before : Console.BeforeLineEnd stream) (keep : settings.lineTerminator = .keep)
    (prepared : settings.refusal? sink = none) :
    Stream.Reads ReadError.io (Read.line settings sink).onStream stream 0 := by
  have empty := line_of_beforeLineEnd before keep prepared
  refine .of_untouched (fun source => ?_) ?_ ?_ ?_
  · have elsewhere : Console.BeforeLineEnd (stream.withSource source) :=
      ⟨before.halted, before.granted⟩
    rw [empty, line_of_beforeLineEnd elsewhere keep prepared]
    rfl
  all_goals
    rw [empty]
  intro message aborted
  cases aborted

/-- The access reads a line and leaves its end, or is another read that takes nothing. -/
def Turn.Spares (turn : Turn) (pull : Pull) : Prop :=
  turn.access.keepsLine = true ∨ turn.access.isRead = true ∧ pull.segment = []

/-- Before a line end the stream stays as it is until something is taken. -/
theorem before_of_spares {accesses : List Access} {stream : Stream} {pulls : List Pull}
    (all : List.Forall₂ Turn.Pulls (turns accesses stream) pulls) (start : Console.BeforeLineEnd stream)
    {j : Nat} {later : Turn} (jth : (turns accesses stream)[j]? = some later)
    (spares : ∀ i < j, ∃ between pull, (turns accesses stream)[i]? = some between ∧
      pulls[i]? = some pull ∧ between.Spares pull) :
    later.before = stream := by
  induction accesses generalizing stream pulls j with
  | nil => cases jth
  | cons access rest ih =>
      cases all with
      | @cons _ pull _ pulls now onward =>
          cases j with
          | zero =>
              cases jth
              rfl
          | succ j =>
              obtain ⟨_, _, first, pulled, spared⟩ := spares 0 (by omega)
              cases first
              cases pulled
              have same : (access.onStream stream).state = stream := Pulls.unchanged now start spared
              have left := ih onward (by rwa [same]) jth fun i less => spares (i + 1) (by omega)
              rwa [same] at left

theorem before_of_spares_between {accesses : List Access} {stream : Stream} {pulls : List Pull}
    (all : List.Forall₂ Turn.Pulls (turns accesses stream) pulls) {k j : Nat} {turn later : Turn}
    (kth : (turns accesses stream)[k]? = some turn) (start : Console.BeforeLineEnd turn.outcome.state)
    (jth : (turns accesses stream)[j]? = some later) (less : k < j)
    (spares : ∀ i, k < i → i < j → ∃ between pull, (turns accesses stream)[i]? = some between ∧
      pulls[i]? = some pull ∧ between.Spares pull) :
    later.before = turn.outcome.state := by
  induction accesses generalizing stream pulls k j with
  | nil => cases kth
  | cons access rest ih =>
      obtain ⟨j, rfl⟩ : ∃ i, j = i + 1 := ⟨j - 1, by omega⟩
      cases all with
      | @cons _ pull _ pulls now onward =>
          cases k with
          | zero =>
              cases kth
              exact before_of_spares onward start jth fun i below =>
                spares (i + 1) (by omega) (by omega)
          | succ k =>
              exact ih onward kth jth (by omega) fun i above below =>
                spares (i + 1) (by omega) (by omega)

theorem outcome_of_turns {accesses : List Access} {stream : Stream} {k : Nat} {turn : Turn}
    (kth : (turns accesses stream)[k]? = some turn) :
    turn.outcome = turn.access.onStream turn.before := by
  induction accesses generalizing stream k with
  | nil => cases kth
  | cons access rest ih =>
      cases k with
      | zero =>
          cases kth
          rfl
      | succ k => exact ih kth

theorem beforeLineEnd_of_keepsLine {access : Access} {stream : Stream} {reply : Reply}
    (keeps : access.keepsLine = true) (returned : (access.onStream stream).ending = .returned reply) :
    Console.BeforeLineEnd (access.onStream stream).state := by
  cases access with
  | unread b => cases keeps
  | read asked =>
      cases asked with
      | line settings sink =>
          have keep : settings.lineTerminator = .keep := of_decide_eq_true keeps
          cases refusal : settings.refusal? sink with
          | some error =>
              have refused : (Read.line settings sink).refusal? = some error := refusal
              have failed : ((Read.line settings sink).onStream stream).ending = _ :=
                congrArg Outcome.ending (Read.onStream_of_refusal refused stream)
              cases failed.symm.trans returned
          | none =>
              obtain ⟨ending, left⟩ := Read.line_apply refusal stream
              obtain ⟨line, read, -⟩ := Ending.map_eq_returned (ending.symm.trans returned)
              have before := Console.beforeLineEnd_of_lineOf (keep ▸ read)
              change Console.BeforeLineEnd ((Read.line settings sink).onStream stream).state
              rw [left, keep]
              exact before
      | nextByte | peek | readUntil _ | skipWhile _ | token _ _ => cases keeps

/-! ### Runs -/

/-- What a run has made of a stream over this source by what it has pulled. -/
structure Pulled (source : Source) (accesses : List Access) (pulls : List Pull) (rest : Stream) :
    Prop where
  /-- The source is where the reads have left it. -/
  left : rest.source = source.after (count pulls)
  /-- Nothing is read behind the end. -/
  last : .nothing ∉ (source.readings (count pulls)).dropLast
  /-- Where no byte has been taken back, the bytes that were pulled are those that the reads took, and the
  one pushed back. -/
  bytes : accesses.all isRead = true →
    (source.readings (count pulls)).filterMap Reading.byte? =
      (pulls.map Pull.segment).flatten ++ rest.pushedBack.toList

/-- Whatever is done with a stream, by its own operations and at consoles that read from it, and whatever
its source does: each operation reads the source so many times and no further than it must, and what it
leaves unread has no part in it. The bytes that a run of reads has pulled are those that the reads took, and
one more where one is pushed back; behind the end nothing is read, not even when bytes are taken back. After
a line that has left its end the next line is empty and reads nothing, as long as no byte is taken in between
and none is taken back. -/
theorem turns_pull (source : Source) (capacity : Nat) (accesses : List Access) :
    let run := turns accesses (Stream.ofSource source capacity)
    ∃ pulls, List.Forall₂ Turn.Pulls run pulls ∧
      ∀ k turn, run[k]? = some turn →
        Pulled source (accesses.take (k + 1)) (pulls.take (k + 1)) turn.outcome.state ∧
        (turn.access.keepsLine = true → ∀ reply, turn.outcome.ending = .returned reply →
          ∀ j later, run[j]? = some later → k < j →
            (∀ i, k < i → i < j → ∃ between pull, run[i]? = some between ∧ pulls[i]? = some pull ∧
              between.Spares pull) →
            later.before = turn.outcome.state ∧
            ∀ settings sink, later.access = .read (.line settings sink) →
              settings.lineTerminator = .keep → sink.Healthy →
              later.outcome = ⟨.returned (.text ""), later.before, [.lineRead 0]⟩ ∧
              ∃ pull, pulls[j]? = some pull ∧ pull.reads = 0) := by
  intro run
  obtain ⟨pulls, all⟩ := turns_pulls accesses (Stream.ofSource source capacity)
  refine ⟨pulls, all, fun k turn kth => ⟨?_, ?_⟩⟩
  · have reached := reached_of_turns all kth
    exact ⟨reached.source, reached.last, fun reads => balance_of_turns all kth reads⟩
  · intro keeps reply returned j later jth less spares
    have whole := outcome_of_turns kth
    have start : Console.BeforeLineEnd turn.outcome.state := by
      rw [whole] at returned ⊢
      exact beforeLineEnd_of_keepsLine keeps returned
    have same := before_of_spares_between all kth start jth less spares
    refine ⟨same, fun settings sink reads keep healthy => ?_⟩
    have prepared := settings.refusal?_of_healthy healthy
    obtain ⟨pull, jth', pulled⟩ := exists_pull all jth
    have did := outcome_of_turns jth
    have none := line_reads_of_beforeLineEnd start keep prepared
    have reading := pulled.reads
    rw [reads, same] at reading
    rw [reads, same] at did
    refine ⟨?_, pull, jth', reading.unique none⟩
    rw [did, same]
    exact line_of_beforeLineEnd start keep prepared

/-- A line that leaves its end, a look at that end, and the line again: it has read two bytes, and does not
come upon what is scripted behind them until it has given up its end. -/
theorem turns_pull_kept :
    let source : Source := [.data [0x61, 0x0A], .failure ⟨.interrupted, none⟩, .abortion "gone",
      .data [0x62], .nothing, .data [0x7A]]
    let line : Access := .read (.line ⟨.keep, true⟩ .reliable)
    let accesses : List Access := [line, .read .peek, line, .read .nextByte, line, line, .unread 0x21,
      line, line]
    let run := turns accesses (Stream.ofSource source 1)
    run.map (·.outcome.ending) = [.returned (.text "a"), .returned (.byte (some 0x0A)),
        .returned (.text ""), .returned (.byte (some 0x0A)), .aborted "gone", .returned (.text "b"),
        .returned .done, .returned (.text "!"), .returned (.text "")] ∧
      ∃ pulls, List.Forall₂ Turn.Pulls run pulls ∧
        (∃ pull, pulls[2]? = some pull ∧ pull.reads = 0) ∧
        .nothing ∉ (source.readings (count pulls)).dropLast ∧
        (source.readings (count (pulls.take 5))).filterMap Reading.byte? =
          ((pulls.take 5).map Pull.segment).flatten := by
  intro source line accesses run
  obtain ⟨pulls, all, pulled⟩ := turns_pull source 1 accesses
  have healthy : Sink.reliable.Healthy := by
    intro error
    simp [Sink.reliable, Sink.scripted]
  refine ⟨by decide +kernel, pulls, all, ?again, ?last, ?bytes⟩
  case again =>
      obtain ⟨-, kept⟩ := pulled 0 _ rfl
      have spares : ∀ i, 0 < i → i < 2 → ∃ between pull, run[i]? = some between ∧ pulls[i]? = some pull ∧
          between.Spares pull := by
        intro i above below
        obtain rfl : i = 1 := by omega
        obtain ⟨pull, found, looks⟩ := exists_pull (k := 1) all rfl
        refine ⟨_, pull, rfl, found, .inr ⟨rfl, ?_⟩⟩
        cases looks with
        | read pulls => exact pulls.peeked rfl
      obtain ⟨-, again⟩ := kept rfl (.text "a") (by decide +kernel) 2 _ rfl (by omega) spares
      exact (again ⟨.keep, true⟩ .reliable rfl rfl healthy).2
  case last =>
      obtain ⟨whole, -⟩ := pulled 8 _ rfl
      have length : pulls.length = 9 := all.length_eq.symm
      have last := whole.last
      rwa [List.take_of_length_le (by omega)] at last
  case bytes =>
      obtain ⟨whole, -⟩ := pulled 4 run[4] rfl
      have unpushed : run[4].outcome.state.pushedBack = none := by decide +kernel
      have bytes := whole.bytes rfl
      rwa [unpushed, Option.toList_none, List.append_nil] at bytes

end Access
end RootObject
