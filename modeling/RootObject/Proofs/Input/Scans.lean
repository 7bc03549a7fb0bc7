import RootObject.Proofs.Input.Arrivals

/-!
Scans: gathering and skipping, the two loops over a stream. Each passes the wanted bytes at the front one
after another (`Passes`) and is over at what comes behind them (`Concludes`). So what a scan ends in and
what is to come after it is told by the arrivals alone (`Scans`); it is shown of a scan from where it is
over, backwards over the bytes that it has passed (`Concludes.scans`, `Passes.scans`).
-/

namespace RootObject

/-- Wanted bytes in front are a part of the run. -/
theorem Arrival.run_ofBytes_append {wanted : UInt8 → Bool} {bytes : List UInt8}
    (all : bytes.all wanted = true) (later : List Arrival) :
    run wanted (ofBytes bytes ++ later) = bytes ++ run wanted later := by
  induction bytes with
  | nil => rfl
  | cons b bytes ih =>
      rw [List.all_cons, Bool.and_eq_true] at all
      change run wanted (.byte b :: (ofBytes bytes ++ later)) = _
      rw [run_byte, if_pos all.1, ih all.2, List.cons_append]

theorem Arrival.afterRun_ofBytes_append {wanted : UInt8 → Bool} {bytes : List UInt8}
    (all : bytes.all wanted = true) (later : List Arrival) :
    afterRun wanted (ofBytes bytes ++ later) = afterRun wanted later := by
  induction bytes with
  | nil => rfl
  | cons b bytes ih =>
      rw [List.all_cons, Bool.and_eq_true] at all
      change afterRun wanted (.byte b :: (ofBytes bytes ++ later)) = _
      rw [afterRun_byte, if_pos all.1, ih all.2]

namespace Stream

section Scans

variable {ε α β : Type} {wanted : UInt8 → Bool} {tell : IoError → ε} {value : α}
  {stream mid rest : Stream} {bytes : List UInt8} {events logged : List Log.Event}
  {outcome : Outcome Stream ε α}

/-! ### The bytes passed -/

/-- What a scan leaves that has passed some bytes: they were wanted, and came first. -/
structure Passes (wanted : UInt8 → Bool) (stream : Stream) (bytes : List UInt8) (rest : Stream) :
    Prop where
  wanted : bytes.all wanted = true
  arrivals : stream.arrivals = Arrival.ofBytes bytes ++ rest.arrivals
  capacity : rest.capacity = stream.capacity
  atEnd : rest.atEnd = stream.atEnd

theorem Passes.refl (wanted : UInt8 → Bool) (stream : Stream) : Passes wanted stream [] stream :=
  ⟨rfl, rfl, rfl, rfl⟩

/-- A wanted byte is passed before those that are passed behind it. -/
theorem Passes.cons {b : UInt8} (delivered : nextByte stream = ⟨.returned (some b), mid, events⟩)
    (want : wanted b = true) (later : Passes wanted mid bytes rest) :
    Passes wanted stream (b :: bytes) rest where
  wanted := by rw [List.all_cons, want, later.wanted, Bool.and_self]
  arrivals := by
    rw [arrivals_of_nextByte delivered]
    exact congrArg (.byte b :: ·) later.arrivals
  capacity := later.capacity.trans (capacity_of_nextByte delivered)
  atEnd := later.atEnd.trans (left_of_nextByte delivered).2

theorem Passes.run_eq (passes : Passes wanted stream bytes rest) :
    Arrival.run wanted stream.arrivals = bytes ++ Arrival.run wanted rest.arrivals := by
  rw [passes.arrivals, Arrival.run_ofBytes_append passes.wanted]

/-! ### Where a scan is over -/

/-- What becomes of a scan that takes no more, with `value` in hand: the next byte is put back, there is
none, or its delivery failed. All that may be logged is the end. -/
inductive Concludes (wanted : UInt8 → Bool) (tell : IoError → ε) (value : α) (logged : List Log.Event)
    (stream : Stream) : Outcome Stream ε α → Prop where
  | stopped {b : UInt8} {rest : Stream}
      (delivered : nextByte stream = ⟨.returned (some b), rest, []⟩) (unwanted : wanted b = false) :
      Concludes wanted tell value logged stream ⟨.returned value, rest.withPushedBack b, logged⟩
  | ended {rest : Stream} {events : List Log.Event}
      (delivered : nextByte stream = ⟨.returned none, rest, events⟩) :
      Concludes wanted tell value logged stream ⟨.returned value, rest, logged ++ events⟩
  | failed {error : IoError} {rest : Stream}
      (delivered : nextByte stream = ⟨.failed error, rest, []⟩) :
      Concludes wanted tell value logged stream ⟨.failed (tell error), rest, logged⟩
  | aborted {message : String} {rest : Stream}
      (delivered : nextByte stream = ⟨.aborted message, rest, []⟩) :
      Concludes wanted tell value logged stream ⟨.aborted message, rest, logged⟩

theorem Concludes.run_eq (concludes : Concludes wanted tell value logged stream outcome) :
    Arrival.run wanted stream.arrivals = [] := by
  cases concludes with
  | stopped delivered unwanted => simp [arrivals_of_nextByte delivered, unwanted]
  | ended delivered =>
      rw [arrivals_of_nextByte delivered, arrivals_at_end delivered, Arrival.run_nil]
  | failed delivered => rw [arrivals_of_nextByte delivered, Arrival.run_failure]
  | aborted delivered => rw [arrivals_of_nextByte delivered, Arrival.run_abortion]

/-! ### What is to come -/

/-- The outcome of a scan: what stopped it, or `value` if that was no failure, with the rest to come. -/
structure Scans {ε α : Type} (wanted : UInt8 → Bool) (tell : IoError → ε) (value : α)
    (stream : Stream) (outcome : Outcome Stream ε α) : Prop where
  ending : outcome.ending =
    ((Arrival.halt (Arrival.afterRun wanted stream.arrivals)).1.mapError tell).map fun _ => value
  arrivals : outcome.state.arrivals = (Arrival.halt (Arrival.afterRun wanted stream.arrivals)).2
  capacity : outcome.state.capacity = stream.capacity

theorem Concludes.scans (concludes : Concludes wanted tell value logged stream outcome) :
    Scans wanted tell value stream outcome := by
  cases concludes with
  | @stopped b rest delivered unwanted =>
      have coming := arrivals_of_nextByte delivered
      have unpushed := (left_of_nextByte delivered).1
      have kept := capacity_of_nextByte delivered
      refine ⟨?_, ?_, kept⟩
      · simp [coming, unwanted, Arrival.halt, Ending.map, Ending.mapError]
      · simp [coming, unwanted, Arrival.halt, arrivals_withPushedBack unpushed]
  | @ended rest events delivered =>
      have coming : stream.arrivals = [] :=
        (arrivals_of_nextByte delivered).trans (arrivals_at_end delivered)
      refine ⟨?_, ?_, capacity_of_nextByte delivered⟩
      · rw [coming, Arrival.afterRun_nil]
        rfl
      · rw [coming, Arrival.afterRun_nil]
        exact arrivals_at_end delivered
  | failed delivered =>
      refine ⟨?_, ?_, capacity_of_nextByte delivered⟩
      all_goals
        rw [arrivals_of_nextByte delivered, Arrival.afterRun_failure]
        rfl
  | aborted delivered =>
      refine ⟨?_, ?_, capacity_of_nextByte delivered⟩
      all_goals
        rw [arrivals_of_nextByte delivered, Arrival.afterRun_abortion]
        rfl

/-- A scan that has passed wanted bytes is the scan of what comes after them. -/
theorem Passes.scans (passes : Passes wanted stream bytes rest)
    (later : Scans wanted tell value rest outcome) : Scans wanted tell value stream outcome := by
  have same : Arrival.afterRun wanted stream.arrivals = Arrival.afterRun wanted rest.arrivals := by
    rw [passes.arrivals, Arrival.afterRun_ofBytes_append passes.wanted]
  exact ⟨same ▸ later.ending, same ▸ later.arrivals, later.capacity.trans passes.capacity⟩

/-- What a scan returns may be told in other terms. -/
theorem Scans.map (f : α → β) (scans : Scans wanted tell value stream outcome) :
    Scans wanted tell (f value) stream (outcome.map f) where
  ending := by
    simp only [Outcome.map, scans.ending]
    cases (Arrival.halt (Arrival.afterRun wanted stream.arrivals)).1 <;> rfl
  arrivals := scans.arrivals
  capacity := scans.capacity

end Scans

/-! ### Skipping -/

/-- Skipping passes unwanted bytes, counting them, and is over at what comes behind. -/
theorem skip_concludes (unwanted : UInt8 → Bool) (count : Nat) (logged : List Log.Event)
    (stream : Stream) : ∃ bytes rest, Passes unwanted stream bytes rest ∧
      Concludes unwanted id (count + bytes.length) logged rest (skip unwanted count logged stream) := by
  fun_induction skip unwanted count logged stream with
  | case1 count logged stream message rest events delivered =>
      obtain rfl := silent_of_nextByte delivered (by simp)
      rw [List.append_nil]
      exact ⟨[], stream, .refl _ _, .aborted delivered⟩
  | case2 count logged stream error rest events delivered =>
      obtain rfl := silent_of_nextByte delivered (by simp)
      rw [List.append_nil]
      exact ⟨[], stream, .refl _ _, .failed delivered⟩
  | case3 count logged stream rest events delivered =>
      exact ⟨[], stream, .refl _ _, .ended delivered⟩
  | case4 count logged stream b rest events delivered passed ih =>
      obtain rfl := silent_of_nextByte delivered (by simp)
      obtain ⟨bytes, last, passes, concludes⟩ := ih
      rw [List.append_nil] at concludes ⊢
      rw [Nat.add_assoc, Nat.add_comm 1] at concludes
      exact ⟨b :: bytes, last, passes.cons delivered passed, concludes⟩
  | case5 count logged stream b rest events delivered wanted =>
      obtain rfl := silent_of_nextByte delivered (by simp)
      rw [List.append_nil]
      exact ⟨[], stream, .refl _ _, .stopped delivered (Bool.eq_false_iff.mpr wanted)⟩

/-- Skipping counts the unwanted bytes at the front. -/
theorem skip_spec (unwanted : UInt8 → Bool) (count : Nat) (logged : List Log.Event)
    (stream : Stream) :
    Scans unwanted id (count + (Arrival.run unwanted stream.arrivals).length) stream
      (skip unwanted count logged stream) := by
  obtain ⟨bytes, rest, passes, concludes⟩ := skip_concludes unwanted count logged stream
  rw [passes.run_eq, concludes.run_eq, List.append_nil]
  exact passes.scans concludes.scans

theorem skipWhile_spec (unwanted : UInt8 → Bool) (stream : Stream) :
    Scans unwanted id (Arrival.run unwanted stream.arrivals).length stream
      (skipWhile unwanted stream) := by
  simpa [skipWhile] using skip_spec unwanted 0 [] stream

end Stream
end RootObject
