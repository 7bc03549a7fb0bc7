import RootObject.Proofs.Console.Reading

/-!
Sinks, however they answer. An answer ends a text if it refuses for another reason than an interruption,
or takes nothing (`Answer.Stops`); behind every other one the next call is for what has not been taken
yet. So a text fails just where an answer that ends it comes before all of it is taken (`FailsWithin`),
and then a beginning of it has arrived, but not all; else all of it has (`writeAll_delivers`).

Where every answer takes at least a byte, all bytes of a text arrive (`writeAll_of_neverFails`). A flush
adds nothing (`accepted_flush`): how often it is asked for, and which of the sink's answers it uses up,
cannot be told from the bytes.
-/

namespace RootObject.Sink

variable {sink : Sink}

/-! ### What has arrived -/

def Entry.bytes : Entry → List UInt8
  | .written bytes => bytes
  | _ => []

theorem accepted_eq (sink : Sink) : sink.accepted = sink.record.reverse.flatMap Entry.bytes := rfl

/-- What a call did last stands behind all that was accepted before. -/
theorem accepted_cons (script : List Answer) (entry : Entry) (record : List Entry) :
    accepted ⟨script, entry :: record⟩ = accepted ⟨script, record⟩ ++ entry.bytes := by
  rw [accepted_eq, accepted_eq, List.reverse_cons, List.flatMap_append, List.flatMap_singleton]

theorem accepted_flush (sink : Sink) : sink.flush.2.accepted = sink.accepted := by
  unfold flush
  split
  all_goals
    rw [accepted_cons]
    exact List.append_nil _

/-! ### How answers end a text -/

/-- The answer ends the text that is being written with this error. -/
inductive Answer.Stops : Answer → IoError → Prop where
  | nothing : Stops (.acceptAtMost 0) .nothingAccepted
  | refused {error : IoError} (lasting : error.kind ≠ .interrupted) : Stops (.refuse error) error

/-- How many bytes the answer takes where so many are written. -/
def Answer.takes (count : Nat) : Answer → Nat
  | .accept => count
  | .acceptAtMost most => min most count
  | .refuse _ => 0

/-- How many of so many bytes are left, where each of these answers was given to a call for all that
were left then. -/
def untaken (count : Nat) (answers : List Answer) : Nat :=
  answers.foldl (fun left answer => left - answer.takes left) count

/-- Before so many bytes are taken, one of the answers ends the text with this error. -/
def FailsWithin (count : Nat) (script : List Answer) (error : IoError) : Prop :=
  ∃ answers last rest, script = answers ++ last :: rest ∧
    (∀ answer ∈ answers, ∀ error, ¬ answer.Stops error) ∧
    0 < untaken count answers ∧ last.Stops error

theorem untaken_zero (answers : List Answer) : untaken 0 answers = 0 := by
  unfold untaken
  induction answers with
  | nil => rfl
  | cons answer answers ih => simpa using ih

theorem not_failsWithin_nil {count : Nat} {error : IoError} : ¬ FailsWithin count [] error := by
  rintro ⟨answers, last, rest, script, -⟩
  simp at script

/-- A text of no bytes cannot fail. -/
theorem not_failsWithin_zero {script : List Answer} {error : IoError} :
    ¬ FailsWithin 0 script error := by
  rintro ⟨answers, last, rest, -, -, left, -⟩
  simp [untaken_zero] at left

theorem Answer.Stops.unique {answer : Answer} {error error' : IoError} (stops : answer.Stops error)
    (stops' : answer.Stops error') : error = error' := by
  cases stops <;> cases stops' <;> rfl

/-- An answer ends the text, or it does not and a later one ends what it leaves. -/
theorem failsWithin_cons {count : Nat} {answer : Answer} {script : List Answer} {error : IoError} :
    FailsWithin count (answer :: script) error ↔ 0 < count ∧ (answer.Stops error ∨
      (∀ error, ¬ answer.Stops error) ∧
        FailsWithin (count - answer.takes count) script error) := by
  constructor
  · rintro ⟨answers, last, rest, script_eq, goOn, left, stops⟩
    cases answers with
    | nil =>
        obtain ⟨rfl, rfl⟩ := List.cons.inj script_eq
        exact ⟨left, .inl stops⟩
    | cons first answers =>
        obtain ⟨rfl, rfl⟩ := List.cons.inj script_eq
        refine ⟨Nat.pos_of_ne_zero ?_, .inr ⟨goOn _ List.mem_cons_self, answers, last, rest, rfl, ?_,
          left, stops⟩⟩
        · rintro rfl
          simp [untaken_zero] at left
        · intro later among
          exact goOn later (List.mem_cons_of_mem _ among)
  · rintro ⟨some, stops | ⟨goesOn, answers, last, rest, rfl, goOn, left, stops⟩⟩
    · exact ⟨[], answer, script, rfl, by simp, some, stops⟩
    · refine ⟨answer :: answers, last, rest, rfl, ?_, left, stops⟩
      intro early among
      rcases List.mem_cons.mp among with rfl | among
      · exact goesOn
      · exact goOn early among

/-! ### Writing a text -/

/-- What came of writing bytes to a sink: those that arrived stand behind all that was accepted
before. -/
structure Delivers (sink : Sink) (bytes : List UInt8) (result : Except IoError Unit) (after : Sink)
    (arrived : List UInt8) : Prop where
  accepted : after.accepted = sink.accepted ++ arrived
  /-- No answer is passed over. -/
  script : after.script <:+ sink.script
  whole : result = .ok () → arrived = bytes
  part : ∀ error, result = .error error → arrived <+: bytes ∧ arrived ≠ bytes
  error_iff : ∀ error, result = .error error ↔ FailsWithin bytes.length sink.script error

theorem deliver_nil (record : List Entry) (script : List Answer) :
    deliver [] record script = (.ok (), ⟨script, record⟩) := by
  cases script <;> rfl

/-- An answer that ends a text adds nothing to it. -/
theorem deliver_of_stops {answer : Answer} {error : IoError} (stops : answer.Stops error)
    {bytes : List UInt8} (nonempty : bytes ≠ []) (record : List Entry) (rest : List Answer) :
    ∃ entry : Entry, entry.bytes = [] ∧
      deliver bytes record (answer :: rest) = (.error error, ⟨rest, entry :: record⟩) := by
  have some : bytes.isEmpty = false := by simpa using nonempty
  cases stops with
  | nothing => exact ⟨.nothingWritten, rfl, by simp [deliver, some]⟩
  | refused lasting =>
      exact ⟨.writeFailed, rfl, by simp [deliver, some, IoError.isInterruption, lasting]⟩

/-- Any other answer takes some bytes from the front and leaves the others to the next. -/
theorem deliver_of_goesOn {answer : Answer} (goesOn : ∀ error, ¬ answer.Stops error)
    {bytes : List UInt8} (nonempty : bytes ≠ []) (record : List Entry) (rest : List Answer) :
    ∃ entry : Entry, entry.bytes = bytes.take (answer.takes bytes.length) ∧
      deliver bytes record (answer :: rest) =
        deliver (bytes.drop (answer.takes bytes.length)) (entry :: record) rest := by
  have some : bytes.isEmpty = false := by simpa using nonempty
  cases answer with
  | accept =>
      refine ⟨.written bytes, by simp [Entry.bytes, Answer.takes], ?_⟩
      simp [deliver, some, Answer.takes, deliver_nil]
  | acceptAtMost most =>
      cases most with
      | zero => exact absurd .nothing (goesOn _)
      | succ most =>
          have taken : bytes.take (min (most + 1) bytes.length) = bytes.take (most + 1) := by
            rw [List.take_eq_take_iff]
            omega
          have left : bytes.drop (min (most + 1) bytes.length) = bytes.drop (most + 1) := by
            rw [List.drop_eq_drop_iff]
            omega
          refine ⟨.written (bytes.take (most + 1)), taken.symm, ?_⟩
          simp [deliver, some, Answer.takes, left]
  | refuse error =>
      have interruption : error.isInterruption = true := by
        refine decide_eq_true (Decidable.of_not_not fun lasting => ?_)
        exact goesOn error (.refused lasting)
      refine ⟨.writeFailed, by simp [Entry.bytes, Answer.takes], ?_⟩
      simp [deliver, some, Answer.takes, interruption]

/-- What an answer took stands before what arrives later. -/
theorem Delivers.of_goesOn {answer : Answer} (goesOn : ∀ error, ¬ answer.Stops error)
    {bytes arrived : List UInt8} (nonempty : bytes ≠ []) {record : List Entry} {entry : Entry}
    {rest : List Answer} {result : Except IoError Unit} {after : Sink}
    (taken : entry.bytes = bytes.take (answer.takes bytes.length))
    (later : Delivers ⟨rest, entry :: record⟩ (bytes.drop (answer.takes bytes.length)) result after
      arrived) :
    Delivers ⟨answer :: rest, record⟩ bytes result after (entry.bytes ++ arrived) where
  accepted := by
    rw [later.accepted, accepted_cons, List.append_assoc]
    rfl
  script := later.script.trans (List.suffix_cons answer rest)
  whole succeeded := by rw [later.whole succeeded, taken, List.take_append_drop]
  part error failed := by
    obtain ⟨begins, short⟩ := later.part error failed
    rw [taken]
    have split := List.take_append_drop (answer.takes bytes.length) bytes
    constructor
    · have ahead := (List.prefix_append_right_inj (bytes.take (answer.takes bytes.length))).mpr begins
      rwa [split] at ahead
    · intro whole
      exact short (List.append_cancel_left (whole.trans split.symm))
  error_iff error := by
    have some : 0 < bytes.length := List.length_pos_iff.mpr nonempty
    rw [later.error_iff, failsWithin_cons, List.length_drop]
    simp [goesOn, some]

/-- Where nothing fails within the bytes, all of them have to arrive. -/
theorem Delivers.of_ok {bytes : List UInt8} {after : Sink}
    (accepted : after.accepted = sink.accepted ++ bytes) (script : after.script <:+ sink.script)
    (never : ∀ error, ¬ FailsWithin bytes.length sink.script error) :
    Delivers sink bytes (.ok ()) after bytes where
  accepted := accepted
  script := script
  whole _ := rfl
  part error failed := by cases failed
  error_iff error := by simp [never error]

/-- Where the first answer ends the text, nothing arrives. -/
theorem Delivers.of_stops {answer : Answer} {error : IoError} (stops : answer.Stops error)
    {bytes : List UInt8} (nonempty : bytes ≠ []) {record : List Entry} {entry : Entry}
    (nothing : entry.bytes = []) (rest : List Answer) :
    Delivers ⟨answer :: rest, record⟩ bytes (.error error) ⟨rest, entry :: record⟩ [] where
  accepted := by
    rw [accepted_cons, nothing]
    rfl
  script := List.suffix_cons answer rest
  whole succeeded := by cases succeeded
  part _ _ := ⟨List.nil_prefix, Ne.symm nonempty⟩
  error_iff error' := by
    rw [failsWithin_cons]
    constructor
    · rintro ⟨⟩
      exact ⟨List.length_pos_iff.mpr nonempty, .inl stops⟩
    · rintro ⟨-, stops' | ⟨goesOn, -⟩⟩
      · rw [stops.unique stops']
      · exact absurd stops (goesOn error)

theorem deliver_delivers (script : List Answer) (bytes : List UInt8) (record : List Entry) :
    ∃ arrived, Delivers ⟨script, record⟩ bytes (deliver bytes record script).1
      (deliver bytes record script).2 arrived := by
  induction script generalizing bytes record with
  | nil =>
      refine ⟨bytes, .of_ok ?_ (List.suffix_refl _) fun error => not_failsWithin_nil⟩
      cases bytes with
      | nil => exact (List.append_nil _).symm
      | cons b bytes => exact accepted_cons [] (.written (b :: bytes)) record
  | cons answer rest ih =>
      by_cases empty : bytes = []
      · subst empty
        exact ⟨[], .of_ok (List.append_nil _).symm (List.suffix_refl _) fun error => not_failsWithin_zero⟩
      by_cases stops : ∃ error, answer.Stops error
      · obtain ⟨error, stops⟩ := stops
        obtain ⟨entry, nothing, delivered⟩ := deliver_of_stops stops empty record rest
        rw [delivered]
        exact ⟨[], .of_stops stops empty nothing rest⟩
      · have goesOn : ∀ error, ¬ answer.Stops error := fun error now => stops ⟨error, now⟩
        obtain ⟨entry, taken, delivered⟩ := deliver_of_goesOn goesOn empty record rest
        obtain ⟨arrived, later⟩ := ih (bytes.drop (answer.takes bytes.length)) (entry :: record)
        rw [delivered]
        exact ⟨_, later.of_goesOn goesOn empty taken⟩

/-- A text arrives as a whole, or up to where an answer ends it. -/
theorem writeAll_delivers (sink : Sink) (bytes : List UInt8) :
    ∃ arrived, sink.Delivers bytes (sink.writeAll bytes).1 (sink.writeAll bytes).2 arrived :=
  deliver_delivers sink.script bytes sink.record

/-! ### Sinks that do not fail -/

/-- No answer ends a text. It may take a part of what is written, or be an interruption. -/
def GoesOn (sink : Sink) : Prop :=
  ∀ answer ∈ sink.script, ∀ error, ¬ answer.Stops error

/-- Whether the answer takes at least a byte, or is an interruption. -/
def Answer.goesOn : Answer → Bool
  | .accept => true
  | .acceptAtMost count => count ≠ 0
  | .refuse error => error.isInterruption

theorem Answer.goesOn_iff {answer : Answer} :
    answer.goesOn = true ↔ ∀ error, ¬ answer.Stops error := by
  cases answer with
  | accept => simpa [goesOn] using fun error stops => by cases stops
  | acceptAtMost count =>
      constructor
      · rintro some error ⟨⟩
        simp [goesOn] at some
      · intro goesOn
        refine decide_eq_true ?_
        rintro rfl
        exact goesOn _ .nothing
  | refuse error =>
      constructor
      · intro interrupted _ stops
        cases stops with
        | refused lasting => exact lasting (of_decide_eq_true interrupted)
      · intro goesOn
        refine decide_eq_true (Decidable.of_not_not fun lasting => ?_)
        exact goesOn error (.refused lasting)

instance (sink : Sink) : Decidable sink.GoesOn :=
  decidable_of_decidable_of_iff (p := ∀ answer ∈ sink.script, answer.goesOn = true)
    (by simp only [GoesOn, Answer.goesOn_iff])

/-- All bytes arrive, and nothing else does. -/
theorem GoesOn.writeAll (goesOn : sink.GoesOn) (bytes : List UInt8) :
    ∃ after, sink.writeAll bytes = (.ok (), after) ∧ after.script <:+ sink.script ∧
      after.accepted = sink.accepted ++ bytes := by
  obtain ⟨arrived, delivers⟩ := sink.writeAll_delivers bytes
  cases result : (sink.writeAll bytes).1 with
  | ok value =>
      obtain rfl := delivers.whole result
      exact ⟨_, Prod.ext result rfl, delivers.script, delivers.accepted⟩
  | error error =>
      obtain ⟨answers, last, rest, script, -, -, stops⟩ := (delivers.error_iff error).mp result
      exact absurd stops (goesOn last (by simp [script]) error)

/-- The answer lets a flush succeed, and takes at least a byte of any that are written. -/
def Answer.Succeeds : Answer → Prop
  | .accept => True
  | .acceptAtMost count => 0 < count
  | .refuse _ => False

/-- No call fails. -/
def NeverFails (sink : Sink) : Prop :=
  ∀ answer ∈ sink.script, answer.Succeeds

theorem neverFails_reliable : reliable.NeverFails := by
  intro answer among
  cases among

theorem NeverFails.healthy (never : sink.NeverFails) : sink.Healthy :=
  fun error among => never (.refuse error) among

theorem NeverFails.flush (never : sink.NeverFails) : sink.flush.2.NeverFails := by
  unfold Sink.flush
  split
  · next error rest script => exact absurd (script ▸ List.mem_cons_self) (never.healthy error)
  · exact fun answer among => never answer (List.mem_of_mem_tail among)

theorem NeverFails.goesOn (never : sink.NeverFails) : sink.GoesOn := by
  intro answer among error stops
  have succeeds := never answer among
  cases stops with
  | nothing => exact absurd succeeds (Nat.lt_irrefl 0)
  | refused lasting => exact succeeds

theorem writeAll_of_neverFails (never : sink.NeverFails) (bytes : List UInt8) :
    ∃ after, sink.writeAll bytes = (.ok (), after) ∧ after.NeverFails ∧
      after.accepted = sink.accepted ++ bytes := by
  obtain ⟨after, delivered, suffix, arrived⟩ := never.goesOn.writeAll bytes
  exact ⟨after, delivered, fun answer among => never answer (suffix.subset among), arrived⟩

end RootObject.Sink
