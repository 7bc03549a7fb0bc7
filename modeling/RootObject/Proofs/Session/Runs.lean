import Mathlib.Data.List.Forall2
import RootObject.Session

/-!
Steps of a session one after another. What holds of each step wherever it is taken holds along a run: that
two ways to take it show the same (`run_congr`), that it has an outcome (`isSome_run`), and what its outcome
is like (`forall₂_run`).
-/

namespace RootObject

/-- What shows the same is there on both sides, or on neither. -/
theorem cases_of_map_eq {α β : Type} {f : α → β} {first? second? : Option α}
    (same : first?.map f = second?.map f) :
    first? = none ∧ second? = none ∨
      ∃ first second, first? = some first ∧ second? = some second ∧ f first = f second := by
  cases first? with
  | none => exact .inl ⟨rfl, Option.map_eq_none_iff.mp same.symm⟩
  | some first =>
      obtain ⟨second, found, shows⟩ := Option.map_eq_some_iff.mp same.symm
      exact .inr ⟨first, second, rfl, found, shows.symm⟩

namespace Session

variable {session : Session} {terminal : Nat}

/-! ### Consoles -/

theorem withConsole_eq {seat : Terminal} {console : Console}
    (found : session.terminals[terminal]? = some seat) :
    session.withConsole terminal console = {
      streams := session.streams.set seat.stream console.stream
      terminals := session.terminals.set terminal { seat with sink := console.sink } } := by
  rw [withConsole, found]

theorem isSome_console?_iff : (session.console? terminal).isSome ↔
    ∃ seat, session.terminals[terminal]? = some seat ∧ seat.stream < session.streams.length := by
  unfold console?
  cases session.terminals[terminal]? with
  | none => simp
  | some seat =>
      cases found : session.streams[seat.stream]? with
      | none => simp [List.getElem?_eq_none_iff.mp found]
      | some stream =>
          obtain ⟨inside, -⟩ := List.getElem?_eq_some_iff.mp found
          simp [inside]

/-- No step takes a terminal away. -/
theorem isSome_console?_withConsole {other : Nat} (console : Console)
    (found : (session.console? other).isSome) :
    ((session.withConsole terminal console).console? other).isSome := by
  obtain ⟨seat, sits, inside⟩ := isSome_console?_iff.mp found
  apply isSome_console?_iff.mpr
  cases place : session.terminals[terminal]? with
  | none =>
      rw [withConsole, place]
      exact ⟨seat, sits, inside⟩
  | some seat' =>
      rw [withConsole_eq place]
      by_cases same : terminal = other
      · subst same
        cases place.symm.trans sits
        obtain ⟨within, -⟩ := List.getElem?_eq_some_iff.mp place
        exact ⟨_, List.getElem?_set_self within, by simpa using inside⟩
      · exact ⟨seat, by rw [List.getElem?_set_ne same, sits], by simpa using inside⟩

/-! ### Runs -/

/-- Steps that have outcomes at every console have outcomes one after another. -/
theorem isSome_run {depth : Nat} {steps : List (Nat × Step)}
    (seated : ∀ step ∈ steps, (session.console? step.1).isSome)
    (answered : ∀ step ∈ steps, ∀ console, (step.2.perform depth console).isSome) :
    (run depth steps session).isSome := by
  induction steps generalizing session with
  | nil => rfl
  | cons step rest ih =>
      obtain ⟨here, others⟩ := List.forall_mem_cons.mp seated
      obtain ⟨now, later⟩ := List.forall_mem_cons.mp answered
      obtain ⟨terminal, step⟩ := step
      obtain ⟨console, found⟩ := Option.isSome_iff_exists.mp here
      obtain ⟨outcome, performed⟩ := Option.isSome_iff_exists.mp (now console)
      have onward : (run depth rest (session.withConsole terminal outcome.state)).isSome :=
        ih (fun step among => isSome_console?_withConsole _ (others step among)) later
      obtain ⟨outcomes, ran⟩ := Option.isSome_iff_exists.mp onward
      have taken : session.perform depth terminal step =
          some ⟨outcome.ending, session.withConsole terminal outcome.state, outcome.events⟩ := by
        rw [perform, found, Option.bind_eq_bind, Option.bind_some, performed]
        rfl
      rw [run, taken, Option.bind_eq_bind, Option.bind_some, ran]
      rfl

/-- What holds of the outcome of each step, in whatever session it is taken, holds of the outcomes one
after another. -/
theorem forall₂_run {α : Type} {related : Nat × α → Outcome Session Step.Error Step.Reply → Prop}
    {depth : Nat} {step : α → Step} {things : List (Nat × α)}
    {outcomes : List (Outcome Session Step.Error Step.Reply)}
    (each : ∀ thing ∈ things, ∀ session outcome,
      perform depth thing.1 (step thing.2) session = some outcome → related thing outcome)
    (ran : run depth (things.map fun (terminal, thing) => (terminal, step thing)) session =
      some outcomes) :
    List.Forall₂ related things outcomes := by
  induction things generalizing session outcomes with
  | nil =>
      cases ran
      exact .nil
  | cons thing rest ih =>
      obtain ⟨now, later⟩ := List.forall_mem_cons.mp each
      rw [List.map_cons, run] at ran
      obtain ⟨outcome, performed, ran⟩ := Option.bind_eq_some_iff.mp ran
      obtain ⟨others, went, ran⟩ := Option.bind_eq_some_iff.mp ran
      cases ran
      exact .cons (now session outcome performed) (ih later went)

/-! ### Runs that show the same -/

theorem map_run_cons {β : Type} (f : Outcome Session Step.Error Step.Reply → β)
    (outcome : Outcome Session Step.Error Step.Reply)
    (outcomes? : Option (List (Outcome Session Step.Error Step.Reply))) :
    (outcomes?.bind fun outcomes => pure (outcome :: outcomes)).map (List.map f) =
      (outcomes?.map (List.map f)).map (f outcome :: ·) := by
  cases outcomes? <;> rfl

section Congr

variable {depth : Nat} (tell : Step.Reply → Step.Reply) (session : Session)

theorem perform_congr {step step' : Step}
    (same : ∀ console, (step.perform depth console).map (Outcome.map tell) =
      (step'.perform depth console).map (Outcome.map tell)) (terminal : Nat) :
    (session.perform depth terminal step).map (Outcome.map tell) =
      (session.perform depth terminal step').map (Outcome.map tell) := by
  unfold perform
  cases session.console? terminal with
  | none => rfl
  | some console =>
      simp only [Option.bind_eq_bind, Option.bind_some]
      rcases cases_of_map_eq (same console) with ⟨none, none'⟩ | ⟨outcome, outcome', found, found', alike⟩
      · rw [none, none']
      · have ending := congrArg Outcome.ending alike
        have state := congrArg Outcome.state alike
        have events := congrArg Outcome.events alike
        simp only [Outcome.map] at ending state events
        simp [found, found', Outcome.map, ending, state, events]

/-- Steps that cannot be told apart one by one cannot be told apart one after another. -/
theorem run_congr {α : Type} {step step' : α → Step} {things : List (Nat × α)}
    (same : ∀ thing ∈ things, ∀ console,
      ((step thing.2).perform depth console).map (Outcome.map tell) =
        ((step' thing.2).perform depth console).map (Outcome.map tell)) :
    (run depth (things.map fun (terminal, thing) => (terminal, step thing)) session).map
        (List.map (Outcome.map tell)) =
      (run depth (things.map fun (terminal, thing) => (terminal, step' thing)) session).map
        (List.map (Outcome.map tell)) := by
  induction things generalizing session with
  | nil => rfl
  | cons thing rest ih =>
      obtain ⟨now, later⟩ := List.forall_mem_cons.mp same
      obtain ⟨terminal, thing⟩ := thing
      rw [List.map_cons, List.map_cons, run, run]
      rcases cases_of_map_eq (perform_congr tell session now terminal) with ⟨none, none'⟩ |
        ⟨outcome, outcome', found, found', alike⟩
      · rw [none, none']
        rfl
      · have state := congrArg Outcome.state alike
        change outcome.state = outcome'.state at state
        rw [found, found', Option.bind_eq_bind, Option.bind_some, Option.bind_eq_bind, Option.bind_some,
          map_run_cons, map_run_cons, state, ih outcome'.state later, alike]

end Congr

end Session
end RootObject
