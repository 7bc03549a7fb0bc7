import RootObject.Proofs.Input.Reads

/-!
Sources of which one read does not return, beside those where it fails instead. An action does the same on
both until it comes to that read. There it is aborted on the one and fails on the other, and leaves the same
stream: no byte is pushed back, the end has not been seen, and the source goes on behind that read
(`Stream.Reads.breaks`).
-/

namespace RootObject

/-- A read that does not return, the failure that may stand in its place, and what comes behind it. -/
structure Breakdown where
  message : String
  error : IoError
  /-- An interruption would not be seen. -/
  seen : error.isInterruption = false
  behind : Source

namespace Breakdown

variable (breakdown : Breakdown)

/-- The source whose next read does not return. -/
def aborting : Source :=
  .abortion breakdown.message :: breakdown.behind

/-- The source whose next read fails. -/
def failing : Source :=
  .failure breakdown.error :: breakdown.behind

theorem readings_aborting (n : Nat) :
    breakdown.aborting.readings (n + 1) = .abortion breakdown.message :: breakdown.behind.readings n :=
  rfl

theorem readings_failing (n : Nat) :
    breakdown.failing.readings (n + 1) = .failure breakdown.error :: breakdown.behind.readings n := by
  simp [failing, Source.readings, Source.read, breakdown.seen]

theorem after_failing (n : Nat) : breakdown.failing.after (n + 1) = breakdown.behind.after n := by
  simp [failing, Source.after, Source.read, breakdown.seen]

end Breakdown

/-! ### Sources -/

namespace Source

/-- One read of some pieces and what comes behind them is either a read of these pieces, or there is
nothing in them that is seen. -/
theorem read_append (ahead : Source) :
    (∃ reading ahead', ∀ tail, (ahead ++ tail).read = (reading, ahead' ++ tail)) ∨
      ∀ tail, (ahead ++ tail).read = tail.read := by
  induction ahead with
  | nil => exact .inr fun _ => rfl
  | cons feed rest ih =>
      cases feed with
      | data bytes =>
          cases bytes with
          | nil => exact ih
          | cons b bytes => exact .inl ⟨.byte b, .data bytes :: rest, fun _ => rfl⟩
      | nothing => exact .inl ⟨.nothing, rest, fun _ => rfl⟩
      | abortion message => exact .inl ⟨.abortion message, rest, fun _ => rfl⟩
      | failure error =>
          cases interrupted : error.isInterruption with
          | true =>
              have passed : ∀ tail, read (.failure error :: rest ++ tail) = read (rest ++ tail) :=
                fun tail => by simp [read, interrupted]
              simpa only [passed] using ih
          | false =>
              exact .inl ⟨.failure error, rest, fun tail => by simp [read, interrupted]⟩

/-- So many reads stay within some pieces, or the later of them are reads of what comes behind. -/
theorem readings_append (ahead : Source) (n : Nat) :
    (∃ readings ahead', ∀ tail, (ahead ++ tail).readings n = readings ∧
      (ahead ++ tail).after n = ahead' ++ tail) ∨
    ∃ readings m, n = readings.length + (m + 1) ∧ ∀ tail,
      (ahead ++ tail).readings n = readings ++ tail.readings (m + 1) ∧
      (ahead ++ tail).after n = tail.after (m + 1) := by
  induction n generalizing ahead with
  | zero => exact .inl ⟨[], ahead, fun _ => ⟨rfl, rfl⟩⟩
  | succ n ih =>
      rcases ahead.read_append with ⟨reading, ahead', first⟩ | passed
      · rcases ih ahead' with ⟨readings, ahead'', within⟩ | ⟨readings, m, length, beyond⟩
        · refine .inl ⟨reading :: readings, ahead'', fun tail => ?_⟩
          rw [Source.readings, after, first tail, (within tail).1, (within tail).2]
          exact ⟨rfl, rfl⟩
        · refine .inr ⟨reading :: readings, m, ?_, fun tail => ?_⟩
          · rw [length, List.length_cons]
            omega
          · rw [Source.readings, after, first tail, (beyond tail).1, (beyond tail).2]
            exact ⟨rfl, rfl⟩
      · refine .inr ⟨[], n, by simp, fun tail => ?_⟩
        rw [Source.readings, after, passed tail]
        exact ⟨rfl, rfl⟩

end Source

/-! ### Outcomes -/

/-- Of two outcomes the second is the first with the failure in place of the abortion: they are the same but
for what is still ahead in the states, or the one was aborted, the other failed, and there is no difference
left. -/
inductive Outcome.Breaks {σ ε α : Type} (message : String) (apart : σ → σ → Prop) (fails : ε → Prop)
    (unwound : σ → Prop) : Outcome σ ε α → Outcome σ ε α → Prop where
  | ahead {ending : Ending ε α} {state state' : σ} {events : List Log.Event} (still : apart state state') :
      Breaks message apart fails unwound ⟨ending, state, events⟩ ⟨ending, state', events⟩
  | broken {error : ε} {state : σ} {events : List Log.Event} (told : fails error) (left : unwound state) :
      Breaks message apart fails unwound ⟨.aborted message, state, events⟩ ⟨.failed error, state, events⟩

namespace Stream

/-- The streams are the same, but the one is going to break down where the other fails. -/
structure Apart (breakdown : Breakdown) (stream stream' : Stream) : Prop where
  ahead : ∃ ahead, stream.source = ahead ++ breakdown.aborting ∧
    stream'.source = ahead ++ breakdown.failing
  same : stream' = stream.withSource stream'.source

/-- The stream has nothing left of what the breakdown has ended: no byte is pushed back, the end has not been
seen, and the source goes on behind the read that did not return. -/
structure Unwound (breakdown : Breakdown) (stream : Stream) : Prop where
  unpushed : stream.pushedBack = none
  unended : stream.atEnd = false
  source : stream.source = breakdown.behind

/-- An action that reads the source comes to the read that does not return, or leaves it ahead. -/
theorem Reads.breaks {ε α : Type} {tell : IoError → ε} {action : Action Stream ε α}
    {breakdown : Breakdown} {stream stream' : Stream} {n : Nat} (reads : Reads tell action stream n)
    (apart : Apart breakdown stream stream') :
    Outcome.Breaks breakdown.message (Apart breakdown) (· = tell breakdown.error) (Unwound breakdown)
      (action stream) (action stream') := by
  obtain ⟨⟨ahead, source, source'⟩, same⟩ := apart
  rw [same]
  rcases ahead.readings_append n with ⟨readings, ahead', within⟩ | ⟨readings, m, length, beyond⟩
  · obtain ⟨read, left⟩ := within breakdown.aborting
    obtain ⟨read', left'⟩ := within breakdown.failing
    rw [← source] at read left
    rw [← source'] at read' left'
    have outcome := reads.same stream'.source (read'.trans read.symm)
    have behind := reads.source_eq
    rw [outcome]
    generalize action stream = whole at behind ⊢
    obtain ⟨ending, rest, events⟩ := whole
    exact .ahead ⟨⟨ahead', behind.trans left, left'⟩, rfl⟩
  · obtain ⟨read, left⟩ := beyond breakdown.aborting
    obtain ⟨read', left'⟩ := beyond breakdown.failing
    rw [← source, breakdown.readings_aborting] at read
    rw [← source', breakdown.readings_failing] at read'
    rw [← source] at left
    rw [← source', breakdown.after_failing] at left'
    -- The read that does not return is the last.
    have last : m = 0 := by
      cases m with
      | zero => rfl
      | succ m =>
          have bytes := reads.bytes (.abortion breakdown.message) (by
            rw [read, Source.readings, List.dropLast_append_of_ne_nil (List.cons_ne_nil _ _),
              List.dropLast_cons_cons]
            exact List.mem_append_right _ List.mem_cons_self)
          cases bytes
    subst last
    rw [Source.readings] at read read'
    have aborted := (reads.aborted breakdown.message).mpr (by rw [read]; simp)
    have before : (stream.source.readings n).dropLast = readings := by
      rw [read, List.dropLast_concat]
    have outcome := reads.softened breakdown.message aborted stream'.source breakdown.error (by
      rw [before, read'])
    have unended : (action stream).state.atEnd = false := by
      cases atEnd : stream.atEnd with
      | true => exact absurd (reads.still atEnd) (by omega)
      | false =>
          have unseen : Reading.nothing ∉ readings ++ [.abortion breakdown.message] := by
            intro among
            rcases List.mem_append.mp among with first | last
            · cases reads.bytes .nothing (by rwa [before])
            · cases List.mem_singleton.mp last
          rw [reads.atEnd, atEnd, Bool.false_or, read, Bool.eq_false_iff, ne_eq, List.contains_iff_mem]
          exact unseen
    have behind : (action stream).state.source = breakdown.behind := reads.source_eq.trans left
    have unpushed := reads.unpushed breakdown.message aborted
    have kept : (action stream).state.withSource (breakdown.behind.after 0) = (action stream).state :=
      congrArg (action stream).state.withSource behind.symm
    rw [outcome, left', kept]
    generalize action stream = whole at aborted unended behind unpushed ⊢
    obtain ⟨ending, rest, events⟩ := whole
    cases aborted
    exact .broken rfl ⟨unpushed, unended, behind⟩

end Stream
end RootObject
