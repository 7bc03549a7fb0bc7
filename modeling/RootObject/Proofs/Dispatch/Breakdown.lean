import RootObject.Dispatch.Overrides
import RootObject.Proofs.Console.Breakdown

/-!
Scripts and dispatched calls over sources of which one read does not return, beside those over sources where
it fails. An abortion ends a script wherever it comes, and a failure is told to the script, so the two come to
the same where scripts hand failures on (`Script.HandsOn`), as all those of the catalogue do
(`Overrides.handsOn`).
-/

namespace RootObject

/-! ### Outcomes -/

/-- What goes on from an error as a value, and ends in an error that tells of it, breaks down as well. -/
theorem Outcome.Breaks.attempt_andThen? {σ ε ε' α β : Type} {message : String} {apart : σ → σ → Prop}
    {fails : ε → Prop} {fails' : ε' → Prop} {unwound : σ → Prop} {first? second? : Option (Outcome σ ε α)}
    {next : Except ε α → σ → Option (Outcome σ ε' β)}
    (breaks : Option.Rel (Breaks message apart fails unwound) first? second?)
    (later : ∀ answer state state', apart state state' →
      Option.Rel (Breaks message apart fails' unwound) (next answer state) (next answer state'))
    (stops : ∀ error state, fails error →
      ∃ error', next (.error error) state = some ⟨.failed error', state, []⟩ ∧ fails' error') :
    Option.Rel (Breaks message apart fails' unwound) (Outcome.andThen? (first?.map attempt) next)
      (Outcome.andThen? (second?.map attempt) next) := by
  cases breaks with
  | none => exact .none
  | some breaks =>
      cases breaks with
      | @ahead ending state state' events still =>
          cases ending with
          | returned value =>
              exact rel_map (later (.ok value) state state' still) fun _ _ breaks => breaks.after events
          | failed error =>
              exact rel_map (later (.error error) state state' still) fun _ _ breaks => breaks.after events
          | aborted message => exact .some (.ahead still)
      | @broken error state events told left =>
          obtain ⟨error', stopped, told'⟩ := stops error state told
          change Option.Rel _ (some _) ((next (.error error) state).map (Outcome.after events))
          rw [stopped]
          simp only [Option.map_some, Outcome.after, List.append_nil]
          exact .some (.broken told' left)

/-- On consoles that are apart there are outcomes of which one breaks down where the other fails, or
none. -/
def Console.Breaks? {ε α : Type} (breakdown : Breakdown) (fails : ε → Prop)
    (action : Console → Option (Outcome Console ε α)) : Prop :=
  ∀ console console', Console.Apart breakdown console console' →
    Option.Rel
      (Outcome.Breaks breakdown.message (Console.Apart breakdown) fails (·.stream.Unwound breakdown))
      (action console) (action console')

open Console (Breaks?)

variable {breakdown : Breakdown}

theorem Console.Breaks.toOption {ε α : Type} {fails : ε → Prop} {action : Action Console ε α}
    (breaks : Console.Breaks breakdown fails action) :
    Breaks? breakdown fails fun console => some (action console) :=
  fun console console' apart => .some (breaks console console' apart)

/-! ### Scripts -/

/-- The failure that an answer tells of, where a read or a call has failed. -/
def Request.failure? : (request : Request) → request.Answer → Option IoError
  | .base _ _, .error fault | .call _ _, .error fault => fault.cause?
  | .readLine, .error (.io error) | .readToken, .error (.io error) => some error
  | _, _ => none

/-- A script that ends when it is told of a failure, in a fault with that failure for its cause. -/
inductive Script.HandsOn {α : Type} : Script α → Prop where
  | done (result : Except Fault α) : HandsOn (.done result)
  | ask {request : Request} {next : request.Answer → Script α}
      (stops : ∀ answer error, request.failure? answer = some error →
        ∃ fault, next answer = .done (.error fault) ∧ fault.cause? = some error)
      (onward : ∀ answer, HandsOn (next answer)) : HandsOn (.ask request next)

namespace Script

variable {α β : Type}

theorem HandsOn.bind {script : Script α} (handsOn : script.HandsOn) {next : α → Script β}
    (later : ∀ value, (next value).HandsOn) : (script >>= next).HandsOn := by
  change (script.andThen next).HandsOn
  induction handsOn with
  | done result =>
      cases result with
      | ok value => exact later value
      | error fault => exact .done (.error fault)
  | @ask request answered stops onward ih =>
      refine .ask (fun answer error told => ?_) ih
      obtain ⟨fault, ended, cause⟩ := stops answer error told
      exact ⟨fault, by rw [ended]; rfl, cause⟩

theorem base_handsOn (method : Method) (argument : method.Argument) :
    (base method argument).HandsOn := by
  refine .ask (fun answer error told => ?_) fun answer => .done answer
  cases answer with
  | ok reply => cases told
  | error fault => exact ⟨fault, rfl, told⟩

theorem call_handsOn (method : Method) (argument : method.Argument) :
    (call method argument).HandsOn := by
  refine .ask (fun answer error told => ?_) fun answer => .done answer
  cases answer with
  | ok reply => cases told
  | error fault => exact ⟨fault, rfl, told⟩

theorem readToken_handsOn (method : Method) : (readToken method).HandsOn := by
  refine .ask (fun answer error told => ?_) fun answer => .done _
  cases answer with
  | ok token => cases told
  | error failed =>
      cases failed with
      | exhausted requested => cases told
      | io failure => exact ⟨.io method failure, rfl, told⟩

/-- Where the methods of its receiver break down, a script that hands failures on does. -/
theorem breaks_of_handsOn {calls : Calls}
    (breaks : ∀ method argument,
      Breaks? breakdown (·.cause? = some breakdown.error) (calls method argument))
    {script : Script α} (handsOn : script.HandsOn) :
    Breaks? breakdown (·.cause? = some breakdown.error) (script.run calls) := by
  induction handsOn with
  | done result =>
      intro console console' apart
      cases result with
      | ok value => exact .some (.ahead apart)
      | error fault => exact .some (.ahead apart)
  | @ask request next stops onward ih =>
      intro console console' apart
      have ends {answer : request.Answer} (state : Console)
          (told : request.failure? answer = some breakdown.error) :
          ∃ fault : Fault, (next answer).run calls state = some ⟨.failed fault, state, []⟩ ∧
            fault.cause? = some breakdown.error := by
        obtain ⟨fault, ended, cause⟩ := stops answer breakdown.error told
        exact ⟨fault, by rw [ended]; rfl, cause⟩
      cases request with
      | base method argument =>
          exact Outcome.Breaks.attempt_andThen?
            ((Base.call_breaks method argument).toOption console console' apart) ih
            fun fault state told => ends state told
      | call method argument =>
          exact Outcome.Breaks.attempt_andThen? (breaks method argument console console' apart) ih
            fun fault state told => ends state told
      | write text =>
          have never : Console.Breaks breakdown (fun _ => False) (Console.write text) :=
            Console.write_breaks text
          exact Outcome.Breaks.attempt_andThen? (never.toOption console console' apart) ih
            fun _ _ told => told.elim
      | flush =>
          have never : Console.Breaks breakdown (fun _ => False) Console.flush := Console.flush_breaks
          exact Outcome.Breaks.attempt_andThen? (never.toOption console console' apart) ih
            fun _ _ told => told.elim
      | readLine =>
          refine Outcome.Breaks.attempt_andThen?
            (Console.readLine_breaks.toOption console console' apart) ih fun failed state told => ?_
          subst told
          exact ends state rfl
      | readToken =>
          refine Outcome.Breaks.attempt_andThen?
            (Console.readToken_breaks.toOption console console' apart) ih fun failed state told => ?_
          subst told
          exact ends state rfl

end Script

/-! ### Calls -/

namespace Table

/-- All implementations in the table hand failures on. -/
def HandsOn (table : Table) : Prop :=
  ∀ method argument, ((table.slot method).implementation argument).HandsOn

theorem root_handsOn : root.HandsOn :=
  Script.base_handsOn

theorem HandsOn.derive {table : Table} (handsOn : table.HandsOn) (name : String) :
    (table.derive name).HandsOn :=
  handsOn

theorem HandsOn.substitute {table : Table} (handsOn : table.HandsOn) {method : Method}
    {implementation : Implementation method} (also : ∀ argument, (implementation argument).HandsOn) :
    (table.substitute method implementation).HandsOn := by
  intro other argument
  by_cases same : method = other
  · subst same
    have slot : (table.substitute method implementation).slot method =
        ⟨implementation, table.own.name⟩ := Slots.replace_same ..
    rw [slot]
    exact also argument
  · have slot : (table.substitute method implementation).slot other = table.slot other :=
      Slots.replace_other _ _ same
    rw [slot]
    exact handsOn other argument

theorem calls_breaks {table : Table} (handsOn : table.HandsOn) (depth : Nat) (method : Method)
    (argument : method.Argument) :
    Breaks? breakdown (·.cause? = some breakdown.error) (table.calls depth method argument) := by
  induction depth generalizing method with
  | zero => exact fun _ _ _ => .none
  | succ depth ih => exact Script.breaks_of_handsOn ih (handsOn method argument)

end Table

/-! ### The catalogue -/

namespace Overrides

open Script (base_handsOn call_handsOn readToken_handsOn HandsOn)

theorem pure_handsOn {α : Type} (value : α) : (pure value : Script α).HandsOn :=
  .done (.ok value)

/-- An implementation of the catalogue ends where something it asks for fails. -/
theorem catalogue_handsOn (method : Method) :
    ∀ entry ∈ catalogue method, ∀ argument, (entry.2 argument).HandsOn := by
  cases method
  all_goals
    simp only [catalogue, List.forall_mem_cons, List.not_mem_nil, false_implies, implies_true, and_true]
  case print =>
      exact ⟨fun _ => base_handsOn _ _,
        fun _ => (base_handsOn _ _).bind fun _ => (base_handsOn _ _).bind fun _ => base_handsOn _ _,
        fun _ => pure_handsOn _, fun _ => (base_handsOn _ _).bind fun _ => pure_handsOn _,
        fun _ => call_handsOn _ _, fun _ => .done _⟩
  case printBool =>
      exact ⟨fun _ => call_handsOn _ _, fun _ => call_handsOn _ _, fun _ => base_handsOn _ _⟩
  case printInt32 =>
      exact ⟨fun _ => (call_handsOn _ _).bind fun _ => (base_handsOn _ _).bind fun _ => call_handsOn _ _,
        fun _ => base_handsOn _ _, fun _ => call_handsOn _ _⟩
  case inputLine =>
      exact ⟨fun _ => (base_handsOn _ _).bind fun _ => pure_handsOn _, fun _ => readToken_handsOn _,
        fun _ => (base_handsOn _ _).bind fun _ => (base_handsOn _ _).bind fun _ => pure_handsOn _⟩
  case inputBool =>
      exact ⟨fun _ => (base_handsOn _ _).bind fun _ => pure_handsOn _, fun _ => pure_handsOn _,
        fun _ => (call_handsOn _ _).bind fun _ => pure_handsOn _⟩
  case inputInt32 =>
      refine ⟨fun _ => (base_handsOn _ _).bind fun _ => pure_handsOn _,
        fun _ => (call_handsOn _ _).bind fun _ => pure_handsOn _,
        fun _ => (readToken_handsOn _).bind fun token => ?_⟩
      -- A token that is no integer is no failure.
      cases parseInt32 token with
      | ok value => exact pure_handsOn value
      | error _ => exact pure_handsOn (-1)

theorem handsOn {method : Method} {name : String} {implementation : Implementation method}
    (found : ofName? method name = some implementation) (argument : method.Argument) :
    (implementation argument).HandsOn := by
  obtain ⟨earlier, later, split, -⟩ := List.lookup_eq_some_iff.mp found
  have among : (name, implementation) ∈ ("base", Script.base method) :: catalogue method := by
    rw [split]
    simp
  rcases List.mem_cons.mp among with same | listed
  · cases same
    exact base_handsOn method argument
  · exact catalogue_handsOn method _ listed argument

end Overrides
end RootObject
