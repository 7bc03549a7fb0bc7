import Mathlib.Data.List.Forall2
import RootObject.Proofs.Output.Sink
import RootObject.Proofs.Text.Decimal
import RootObject.Session

/-!
What reaches a sink of the texts that are written at a console, by the console itself or by the root
class's printing methods. Any calls may follow one another, whatever the earlier ones ended in. Each
adds its text to what the sink has accepted, or fails and adds a beginning of it; what has been accepted
is all that the calls added, in order (`writings_accounted`).
-/

namespace RootObject

namespace Printing

/-- The method that prints. -/
def method : Printing → Method
  | .text _ => .print
  | .bool _ => .printBool
  | .int32 _ => .printInt32

/-- The text that is printed. -/
def shown : Printing → String
  | .text content => content
  | .bool value => if value then "true" else "false"
  | .int32 value => toString value.toInt

/-- As the root class prints. -/
def base : Printing → Action Console Fault Receiver
  | .text content => Base.print content
  | .bool value => Base.printBool value
  | .int32 value => Base.printInt32 value

/-- Every printing method writes one text, and returns its receiver. -/
theorem base_eq (printing : Printing) : printing.base = Base.write printing.method printing.shown := by
  cases printing with
  | text content => rfl
  | bool value => rfl
  | int32 value => simp only [base, Base.printInt32, Decimal.ofInt_eq_toString, method, shown]

end Printing

/-- A call that writes a text: the console's own, or a printing method of an object as the root class
has it. -/
inductive Writing where
  | plain (text : String)
  | printed (object : Object) (printing : Printing)

namespace Writing

def text : Writing → String
  | .plain content => content
  | .printed _ printing => printing.shown

/-- What the call brings if it returns: a printing method its receiver. -/
def reply : Writing → Step.Reply
  | .plain _ => .nothing
  | .printed object _ => .object object

/-- What the call ends in for an error of the sink. -/
def error (failure : IoError) : Writing → Step.Error
  | .plain _ => .io failure
  | .printed _ printing => .fault (.io printing.method failure)

/-- The call at a console. -/
def atConsole : Writing → Action Console Step.Error Step.Reply
  | .plain content => fun console => ((Console.write content console).map fun _ => .nothing).mapError .io
  | .printed object printing => fun console =>
      ((printing.base console).map fun receiver => .object (object.returned receiver)).mapError .fault

/-! ### One call -/

/-- The call does with the sink what writing the bytes of its text does, and touches nothing else. -/
theorem atConsole_eq (writing : Writing) (console : Console) :
    let (result, sink) := console.sink.writeAll (Utf8.encode writing.text)
    let ending := match result with
      | .ok () => .returned writing.reply
      | .error failure => .failed (writing.error failure)
    writing.atConsole console = ⟨ending, { console with sink }, []⟩ := by
  cases writing with
  | plain content =>
      simp only [atConsole, Console.write, Console.onSink, Writing.text]
      cases (console.sink.writeAll (Utf8.encode content)).1 <;> rfl
  | printed object printing =>
      simp only [atConsole, printing.base_eq, Base.write, Console.write, Console.onSink, Writing.text,
        Action.bind_apply, Action.mapError]
      cases (console.sink.writeAll (Utf8.encode printing.shown)).1 <;> rfl

/-! ### Calls one after another -/

/-- A call, the console it was made at, and what came of it. -/
structure Turn where
  writing : Writing
  before : Console
  outcome : Outcome Console Step.Error Step.Reply

/-- Calls one after another, whatever the earlier ones ended in. -/
def turns : List Writing → Console → List Turn
  | [], _ => []
  | writing :: rest, console =>
      ⟨writing, console, writing.atConsole console⟩ :: turns rest (writing.atConsole console).state

/-- How a call accounts for the bytes that it added to those that its sink had accepted. -/
structure Turn.Accounts (turn : Turn) (arrived : List UInt8) : Prop where
  accepted : turn.outcome.state.sink.accepted = turn.before.sink.accepted ++ arrived
  /-- A call that returned has added all of its text. -/
  returned : ∀ reply, turn.outcome.ending = .returned reply →
    reply = turn.writing.reply ∧ arrived = Utf8.encode turn.writing.text
  /-- A call that failed has added a beginning of its text, but not all. -/
  failed : ∀ error, turn.outcome.ending = .failed error →
    arrived <+: Utf8.encode turn.writing.text ∧ arrived ≠ Utf8.encode turn.writing.text
  /-- A call fails just where an answer of the sink ends the text before all of it is taken. -/
  failed_iff : ∀ error, turn.outcome.ending = .failed error ↔
    ∃ failure, error = turn.writing.error failure ∧
      Sink.FailsWithin (Utf8.encode turn.writing.text).length turn.before.sink.script failure
  returned_iff : turn.outcome.ending = .returned turn.writing.reply ↔
    ∀ failure, ¬ Sink.FailsWithin (Utf8.encode turn.writing.text).length turn.before.sink.script failure
  /-- An empty text asks nothing of the sink. -/
  empty : turn.writing.text = "" →
    turn.outcome.ending = .returned turn.writing.reply ∧ turn.outcome.state = turn.before

theorem atConsole_accounts (writing : Writing) (console : Console) :
    ∃ arrived, Turn.Accounts ⟨writing, console, writing.atConsole console⟩ arrived := by
  obtain ⟨arrived, delivers⟩ := console.sink.writeAll_delivers (Utf8.encode writing.text)
  have performed := writing.atConsole_eq console
  have silent : writing.text = "" → console.sink.writeAll (Utf8.encode writing.text) = (.ok (), console.sink) := by
    intro empty
    rw [empty]
    exact Sink.deliver_nil console.sink.record console.sink.script
  generalize console.sink.writeAll (Utf8.encode writing.text) = written at *
  obtain ⟨result, sink⟩ := written
  refine ⟨arrived, ?_⟩
  rw [performed]
  cases result with
  | ok value =>
      have never : ∀ failure, ¬ Sink.FailsWithin (Utf8.encode writing.text).length console.sink.script
          failure := by
        intro failure fails
        cases (delivers.error_iff failure).mpr fails
      refine ⟨delivers.accepted, ?_, ?_, ?_, ?_, ?_⟩
      · rintro _ ⟨⟩
        exact ⟨rfl, delivers.whole rfl⟩
      · intro error failed
        cases failed
      · intro error
        simp [never]
      · simp [never]
      · intro empty
        cases silent empty
        exact ⟨rfl, rfl⟩
  | error failure =>
      have fails := (delivers.error_iff failure).mp rfl
      refine ⟨delivers.accepted, ?_, ?_, ?_, ?_, ?_⟩
      · intro reply returned
        cases returned
      · intro error failed
        exact delivers.part failure rfl
      · intro error
        constructor
        · rintro ⟨⟩
          exact ⟨failure, rfl, fails⟩
        · rintro ⟨other, rfl, fails⟩
          have same := (delivers.error_iff other).mpr fails
          cases same
          rfl
      · constructor
        · intro returned
          cases returned
        · intro never
          exact absurd fails (never failure)
      · intro empty
        cases silent empty

theorem turns_account (writings : List Writing) (console : Console) :
    ∃ segments, List.Forall₂ Turn.Accounts (turns writings console) segments := by
  induction writings generalizing console with
  | nil => exact ⟨[], .nil⟩
  | cons writing rest ih =>
      obtain ⟨segment, accounts⟩ := writing.atConsole_accounts console
      obtain ⟨segments, later⟩ := ih (writing.atConsole console).state
      exact ⟨segment :: segments, .cons accounts later⟩

/-- What has been accepted after a call is what was before, and what the calls up to it added. -/
theorem accepted_append_flatten {writings : List Writing} {console : Console}
    {segments : List (List UInt8)}
    (accounts : List.Forall₂ Turn.Accounts (turns writings console) segments) {k : Nat} {turn : Turn}
    (kth : (turns writings console)[k]? = some turn) :
    turn.outcome.state.sink.accepted =
      console.sink.accepted ++ (segments.take (k + 1)).flatten := by
  induction writings generalizing console segments k with
  | nil => cases kth
  | cons writing rest ih =>
      cases accounts with
      | cons now later =>
          rw [List.take_succ_cons, List.flatten_cons, ← List.append_assoc]
          have accepted := now.accepted
          cases k with
          | zero =>
              cases kth
              rw [List.take_zero, List.flatten_nil, List.append_nil]
              exact accepted
          | succ k =>
              rw [ih later kth]
              exact congrArg (· ++ _) accepted

/-- However the sink answers: each call at the console adds some bytes to what the sink has accepted,
and what it has accepted after a call is what the calls up to it added, in order. A call that returns
has added its whole text, and a printing method returns its receiver. A call fails where, before its text
is taken as a whole, the sink refuses for another reason than an interruption or takes nothing; it ends
in that error, and has added a beginning of its text that is not all of it. -/
theorem writings_accounted (writings : List Writing) (console : Console) :
    ∃ segments, List.Forall₂ Turn.Accounts (turns writings console) segments ∧
      ∀ k turn, (turns writings console)[k]? = some turn →
        turn.outcome.state.sink.accepted =
          console.sink.accepted ++ (segments.take (k + 1)).flatten := by
  obtain ⟨segments, accounts⟩ := turns_account writings console
  refine ⟨segments, accounts, ?_⟩
  intro k turn kth
  exact accepted_append_flatten accounts kth

/-- A short write with an interruption behind it, nothing taken, a broken pipe, and a text like a
pattern. -/
theorem writings_accounted_broken :
    let console : Console := ⟨{}, Stream.ofSource [] 1, .scripted [.acceptAtMost 2,
      .refuse ⟨.interrupted, none⟩, .acceptAtMost 0, .accept, .refuse ⟨.brokenPipe, none⟩,
      .acceptAtMost 1]⟩
    let writings := [.plain "abc", .printed .root (.text ""), .printed .root (.int32 (-12)),
      .printed .root (.bool true), .printed .root (.text "é%d")]
    (turns writings console).map (fun turn => turn.outcome.ending.map fun _ => ()) =
        [.failed (.io .nothingAccepted), .returned (), .returned (),
          .failed (.fault (.io .printBool ⟨.brokenPipe, none⟩)), .returned ()] ∧
      ∃ segments, List.Forall₂ Turn.Accounts (turns writings console) segments ∧
        segments.flatten = Utf8.encode "ab-12é%d" := by
  intro console writings
  obtain ⟨segments, accounts, accepted⟩ := writings_accounted writings console
  refine ⟨by decide +kernel, segments, accounts, ?_⟩
  have all : segments.length = 5 := accounts.length_eq.symm
  have last := accepted 4 _ rfl
  rw [List.take_of_length_le (by omega)] at last
  exact last.symm.trans (by decide +kernel)

end Writing
end RootObject
