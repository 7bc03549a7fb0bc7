import RootObject.Proofs.Console.Reading
import RootObject.Proofs.Session.Runs

/-!
Terminals that read from one stream. Whatever reads which of them makes, in whatever order, each gets
what one sequential reader of the bytes that remain gets, and leaves what that one leaves
(`run_shared`): a byte that one terminal's read pushed back is the first that the next read sees, at
whichever terminal it is made.
-/

namespace RootObject

/-- A call that reads: of a console, or of an object as the root class has it. -/
inductive ReadCall where
  | line
  | token
  | inputLine (object : Object)
  | inputBool (object : Object)
  | inputInt32 (object : Object)

namespace ReadCall

def step : ReadCall → Step
  | .line => .readLine
  | .token => .readToken
  | .inputLine object => .call object .direct .inputLine ()
  | .inputBool object => .call object .direct .inputBool ()
  | .inputInt32 object => .call object .direct .inputInt32 ()

/-! ### The sequential reader -/

/-- The line or the token that the call is after. -/
def piece : ReadCall → List UInt8 → List UInt8
  | .line, bytes | .inputLine _, bytes => Reader.line bytes
  | .token, bytes | .inputBool _, bytes | .inputInt32 _, bytes => Reader.token bytes

/-- All bytes that the call takes. -/
def taken (terminator : LineTerminator) : ReadCall → List UInt8 → List UInt8
  | .line, bytes | .inputLine _, bytes => Reader.throughLine terminator bytes
  | .token, bytes | .inputBool _, bytes | .inputInt32 _, bytes => Reader.throughToken bytes

/-- The bytes that the call leaves. -/
def left (terminator : LineTerminator) : ReadCall → List UInt8 → List UInt8
  | .line, bytes | .inputLine _, bytes => Reader.afterLine terminator bytes
  | .token, bytes | .inputBool _, bytes | .inputInt32 _, bytes => Reader.afterToken bytes

/-- How the call ends where this is the text it is after. -/
def ending (text : String) : ReadCall → Ending Step.Error Step.Reply
  | .line | .token | .inputLine _ => .returned (.text text)
  | .inputBool _ =>
      ((Base.ofToken .inputBool .boolean parseBool text).map .flag).mapError .fault
  | .inputInt32 _ =>
      ((Base.ofToken .inputInt32 .integer parseInt32 text).map .number).mapError .fault

/-- What came of a call: how it ended, what it took, and what it left. -/
structure Serving where
  ending : Ending Step.Error Step.Reply
  taken : List UInt8
  left : List UInt8

/-- The call on the bytes that remain. -/
def serve (terminator : LineTerminator) (call : ReadCall) (bytes : List UInt8) : Serving where
  ending := call.ending (Utf8.decode (call.piece bytes))
  taken := call.taken terminator bytes
  left := call.left terminator bytes

/-- Calls one after another, each at a terminal that ends lines in its mode. -/
def serveAll (modes : Nat → LineTerminator) : List (Nat × ReadCall) → List UInt8 → List Serving
  | [], _ => []
  | (terminal, call) :: rest, bytes =>
      call.serve (modes terminal) bytes :: serveAll modes rest (call.left (modes terminal) bytes)

/-- No buffer that a call gathers its piece in is refused. -/
def AllGranted (modes : Nat → LineTerminator) (capacity : Nat) :
    List (Nat × ReadCall) → List UInt8 → Prop
  | [], _ => True
  | (terminal, call) :: rest, bytes =>
      Buffer.Granted capacity (call.piece bytes).length ∧
        AllGranted modes capacity rest (call.left (modes terminal) bytes)

theorem taken_append (terminator : LineTerminator) (call : ReadCall) (bytes : List UInt8) :
    call.taken terminator bytes ++ call.left terminator bytes = bytes := by
  cases call with
  | line => exact Reader.throughLine_append terminator bytes
  | token => exact Reader.throughToken_append bytes
  | inputLine object => exact Reader.throughLine_append terminator bytes
  | inputBool object => exact Reader.throughToken_append bytes
  | inputInt32 object => exact Reader.throughToken_append bytes

/-- What was taken up to a call and what that call left are all the bytes, each once. -/
theorem flatMap_taken_append {modes : Nat → LineTerminator} {calls : List (Nat × ReadCall)}
    {bytes : List UInt8} {k : Nat} {serving : Serving}
    (kth : (serveAll modes calls bytes)[k]? = some serving) :
    ((serveAll modes calls bytes).take (k + 1)).flatMap Serving.taken ++ serving.left = bytes := by
  induction calls generalizing bytes k with
  | nil => cases kth
  | cons call rest ih =>
      obtain ⟨terminal, call⟩ := call
      rw [serveAll, List.take_succ_cons, List.flatMap_cons, List.append_assoc]
      cases k with
      | zero =>
          cases kth
          exact taken_append (modes terminal) call bytes
      | succ k =>
          rw [ih kth]
          exact taken_append (modes terminal) call bytes

/-! ### One call -/

variable {capacity : Nat} {bytes : List UInt8}

/-- A call does at a console what the sequential reader does. -/
theorem perform_step (depth : Nat) {settings : Console.Settings} {console : Console} (call : ReadCall)
    (holds : console.Holds settings capacity bytes)
    (granted : Buffer.Granted capacity (call.piece bytes).length) :
    ∃ outcome, call.step.perform depth console = some outcome ∧
      outcome.ending = call.ending (Utf8.decode (call.piece bytes)) ∧
      outcome.state.Holds settings capacity (call.left settings.lineTerminator bytes) := by
  cases call with
  | line =>
      have ends := ((Console.readLine_ends holds granted).map Step.Reply.text).mapError Step.Error.read
      exact ⟨_, rfl, ends.ending, ends.left⟩
  | token =>
      have ends := ((Console.readToken_ends holds granted).map Step.Reply.text).mapError Step.Error.read
      exact ⟨_, rfl, ends.ending, ends.left⟩
  | inputLine object =>
      have ends := ((Base.inputLine_ends holds granted).map Step.Reply.text).mapError Step.Error.fault
      exact ⟨_, rfl, ends.ending, ends.left⟩
  | inputBool object =>
      have read := Base.inputLiteral_ends .inputBool .boolean parseBool (.booleanParsed .inputBool)
        holds granted
      have ends := (read.map Step.Reply.flag).mapError Step.Error.fault
      exact ⟨_, rfl, ends.ending, ends.left⟩
  | inputInt32 object =>
      have read := Base.inputLiteral_ends .inputInt32 .integer parseInt32 (.integerParsed .inputInt32)
        holds granted
      have ends := (read.map Step.Reply.number).mapError Step.Error.fault
      exact ⟨_, rfl, ends.ending, ends.left⟩

end ReadCall

namespace Session

/-! ### One terminal among others -/

/-- The terminal reads from the stream at this place, and ends lines in this mode. -/
def Seats (place terminal : Nat) (mode : LineTerminator) (session : Session) : Prop :=
  ∃ seat, session.terminals[terminal]? = some seat ∧ seat.stream = place ∧
    seat.settings.lineTerminator = mode

/-- The stream at this place is going to deliver these bytes, and no sink of a terminal that reads from
it refuses anything. -/
structure Shares (place capacity : Nat) (bytes : List UInt8) (session : Session) : Prop where
  stream : ∃ stream, session.streams[place]? = some stream ∧ stream.Holds capacity bytes
  healthy : ∀ seat ∈ session.terminals, seat.stream = place → seat.sink.Healthy

variable {session : Session} {place capacity terminal : Nat} {bytes left : List UInt8}
  {mode : LineTerminator} {seat : Terminal} {console : Console}

theorem Shares.withConsole {settings : Console.Settings} (shares : session.Shares place capacity bytes)
    (found : session.terminals[terminal]? = some seat) (here : seat.stream = place)
    (holds : console.Holds settings capacity left) :
    (session.withConsole terminal console).Shares place capacity left := by
  obtain ⟨stream, present, -⟩ := shares.stream
  obtain ⟨inside, -⟩ := List.getElem?_eq_some_iff.mp present
  rw [withConsole_eq found]
  constructor
  · refine ⟨console.stream, ?_, holds.stream⟩
    rw [here, List.getElem?_set_self inside]
  · intro other among there
    rcases List.mem_or_eq_of_mem_set among with among | rfl
    · exact shares.healthy other among there
    · exact holds.sink

/-- What a terminal reads from and how it ends lines never changes. -/
theorem Seats.withConsole {other : Nat} (seats : session.Seats place other mode)
    (found : session.terminals[terminal]? = some seat) :
    (session.withConsole terminal console).Seats place other mode := by
  obtain ⟨seat', found', here, ends⟩ := seats
  rw [withConsole_eq found]
  by_cases same : terminal = other
  · subst same
    cases found.symm.trans found'
    obtain ⟨inside, -⟩ := List.getElem?_eq_some_iff.mp found
    exact ⟨_, List.getElem?_set_self inside, here, ends⟩
  · exact ⟨seat', by rw [List.getElem?_set_ne same, found'], here, ends⟩

/-- A call at one terminal serves the next of the bytes that remain, and the others stay as they are. -/
theorem perform_shared (depth : Nat) (call : ReadCall) (shares : session.Shares place capacity bytes)
    (seats : session.Seats place terminal mode)
    (granted : Buffer.Granted capacity (call.piece bytes).length) :
    ∃ outcome, session.perform depth terminal call.step = some outcome ∧
      outcome.ending = (call.serve mode bytes).ending ∧
      outcome.state.Shares place capacity (call.serve mode bytes).left ∧
      ∀ other mode', session.Seats place other mode' → outcome.state.Seats place other mode' := by
  obtain ⟨seat, found, here, rfl⟩ := seats
  obtain ⟨stream, present, delivers⟩ := shares.stream
  have healthy := shares.healthy seat (List.mem_of_getElem? found) here
  have holds : Console.Holds seat.settings capacity bytes ⟨seat.settings, stream, seat.sink⟩ :=
    ⟨rfl, delivers, healthy⟩
  obtain ⟨outcome, performed, ending, left⟩ := call.perform_step depth holds granted
  have console : session.console? terminal = some ⟨seat.settings, stream, seat.sink⟩ := by
    rw [console?, found, Option.bind_eq_bind, Option.bind_some, here, present]
    rfl
  refine ⟨⟨outcome.ending, session.withConsole terminal outcome.state, outcome.events⟩, ?_, ending,
    shares.withConsole found here left, fun other mode' seats => seats.withConsole found⟩
  rw [perform, console, Option.bind_eq_bind, Option.bind_some, performed]
  rfl

/-! ### All orders of calls -/

/-- What the session at the end of an outcome has left in the stream at this place. -/
def remaining (place : Nat) (session : Session) : Option (List UInt8) :=
  session.streams[place]?.map Stream.remaining

theorem Shares.remaining_eq (shares : session.Shares place capacity bytes) :
    session.remaining place = some bytes := by
  obtain ⟨stream, present, delivers⟩ := shares.stream
  rw [remaining, present, Option.map_some, delivers.remaining]

theorem run_shared (depth : Nat) {modes : Nat → LineTerminator} {calls : List (Nat × ReadCall)}
    (shares : session.Shares place capacity bytes)
    (seats : ∀ call ∈ calls, session.Seats place call.1 (modes call.1))
    (granted : ReadCall.AllGranted modes capacity calls bytes) :
    ∃ outcomes, run depth (calls.map fun (terminal, call) => (terminal, call.step)) session =
        some outcomes ∧
      outcomes.map (fun outcome => (outcome.ending, outcome.state.remaining place)) =
        (ReadCall.serveAll modes calls bytes).map fun serving => (serving.ending, some serving.left) := by
  induction calls generalizing session bytes with
  | nil => exact ⟨[], rfl, rfl⟩
  | cons call rest ih =>
      obtain ⟨terminal, call⟩ := call
      obtain ⟨now, later⟩ := granted
      have seated := seats _ List.mem_cons_self
      obtain ⟨outcome, performed, ending, shares, kept⟩ := perform_shared depth call shares seated now
      have seats' : ∀ call ∈ rest, outcome.state.Seats place call.1 (modes call.1) :=
        fun call among => kept _ _ (seats call (List.mem_cons_of_mem _ among))
      obtain ⟨outcomes, ran, same⟩ := ih shares seats' later
      refine ⟨outcome :: outcomes, ?_, ?_⟩
      · rw [List.map_cons, run, performed, Option.bind_eq_bind, Option.bind_some, ran]
        rfl
      · rw [List.map_cons, ReadCall.serveAll, List.map_cons, ending, shares.remaining_eq, same]
        rfl

/-- Terminals that read from one stream, over a source that no failure awaits, are served as by one
sequential reader of its data, whichever of them makes which call when. Each call ends as it does for
that reader and leaves the bytes that it leaves, and what was taken up to there and what is left are
the data: no byte is lost, and none is delivered twice. -/
theorem run_eq_serveAll (source : Source) (capacity depth place : Nat) (session : Session)
    (modes : Nat → LineTerminator) (calls : List (Nat × ReadCall)) (steady : source.Steady)
    (shared : session.streams[place]? = some (Stream.ofSource source capacity))
    (healthy : ∀ seat ∈ session.terminals, seat.stream = place → seat.sink.Healthy)
    (seats : ∀ call ∈ calls, session.Seats place call.1 (modes call.1))
    (granted : ReadCall.AllGranted modes (max capacity 1) calls source.data) :
    (∃ outcomes, run depth (calls.map fun (terminal, call) => (terminal, call.step)) session =
        some outcomes ∧
      outcomes.map (fun outcome => (outcome.ending, outcome.state.remaining place)) =
        (ReadCall.serveAll modes calls source.data).map fun serving =>
          (serving.ending, some serving.left)) ∧
    ∀ k serving, (ReadCall.serveAll modes calls source.data)[k]? = some serving →
      ((ReadCall.serveAll modes calls source.data).take (k + 1)).flatMap ReadCall.Serving.taken ++
        serving.left = source.data := by
  have shares : session.Shares place (max capacity 1) source.data :=
    ⟨⟨_, shared, Stream.holds_ofSource steady capacity⟩, healthy⟩
  exact ⟨run_shared depth shares seats granted, fun _ _ kth => ReadCall.flatMap_taken_append kth⟩

/-- A terminal that keeps line ends and one that takes them, and a source cut inside a token. -/
theorem run_eq_serveAll_two_modes :
    let source : Source := [.data [0x61], .failure ⟨.interrupted, none⟩,
      .data [0x62, 0x20, 0x63, 0x0A, 0x37, 0x78, 0x0A, 0x20, 0x74, 0x72, 0x75, 0x65]]
    let session : Session := ⟨[Stream.ofSource source 1],
      [⟨⟨.keep, true⟩, .reliable, 0, true⟩, ⟨⟨.consume, true⟩, .scripted [.acceptAtMost 0], 0, true⟩]⟩
    (run 1
        [(0, ReadCall.token.step), (1, (ReadCall.inputLine .root).step),
          (1, (ReadCall.inputInt32 .root).step), (0, ReadCall.line.step), (1, ReadCall.line.step),
          (0, (ReadCall.inputBool .root).step)] session).map
        (List.map fun outcome => (outcome.ending, outcome.state.remaining 0)) =
      some [
        (.returned (.text "ab"), some [0x20, 0x63, 0x0A, 0x37, 0x78, 0x0A, 0x20, 0x74, 0x72, 0x75, 0x65]),
        (.returned (.text " c"), some [0x37, 0x78, 0x0A, 0x20, 0x74, 0x72, 0x75, 0x65]),
        (.failed (.fault (.malformedToken .inputInt32 "7x" .integer)),
          some [0x0A, 0x20, 0x74, 0x72, 0x75, 0x65]),
        (.returned (.text ""), some [0x0A, 0x20, 0x74, 0x72, 0x75, 0x65]),
        (.returned (.text ""), some [0x20, 0x74, 0x72, 0x75, 0x65]),
        (.returned (.flag true), some [])] := by
  intro source session
  have healthy : ∀ seat ∈ session.terminals, seat.stream = 0 → seat.sink.Healthy := by
    rw [List.forall_mem_cons, List.forall_mem_singleton]
    constructor <;> intro _ error refused <;> simp [Sink.reliable, Sink.scripted] at refused
  have data : source.data =
      [0x61, 0x62, 0x20, 0x63, 0x0A, 0x37, 0x78, 0x0A, 0x20, 0x74, 0x72, 0x75, 0x65] := rfl
  obtain ⟨⟨outcomes, ran, same⟩, -⟩ := run_eq_serveAll source 1 1 0 session
    (fun terminal => if terminal = 0 then .keep else .consume)
    [(0, .token), (1, .inputLine .root), (1, .inputInt32 .root), (0, .line), (1, .line),
      (0, .inputBool .root)]
    ⟨rfl, trivial⟩ rfl healthy
    (by
      intro call among
      simp only [List.mem_cons, List.not_mem_nil, or_false] at among
      rcases among with rfl | rfl | rfl | rfl | rfl | rfl <;> exact ⟨_, rfl, rfl, rfl⟩)
    (by
      rw [data]
      refine ⟨Buffer.granted_of_lt ?_ ?_, Buffer.granted_of_lt ?_ ?_, Buffer.granted_of_lt ?_ ?_,
        Buffer.granted_of_lt ?_ ?_, Buffer.granted_of_lt ?_ ?_, Buffer.granted_of_lt ?_ ?_, trivial⟩
      all_goals decide +kernel)
  rw [data] at same
  exact (congrArg (Option.map _) ran).trans (congrArg some same)

end Session
end RootObject
