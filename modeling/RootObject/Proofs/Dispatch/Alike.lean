import RootObject.Dispatch.Table
import RootObject.Proofs.Console.Alike

/-!
Scripts and dispatched calls on consoles that are alike. A script goes on from what it was answered and
knows nothing else, so as long as it is answered alike it asks the same (`Script.run_uniform`); and the
methods of an instance answer alike however deep their calls are nested (`Table.calls_uniform`). Which
requests for buffers are made on the way is told along the run, since they depend on what the script is
answered.
-/

namespace RootObject

open Console (Alike)

/-- On consoles that are alike, and where they are granted what is asked for, there are outcomes that
are alike, or none. -/
def Console.Uniform? {ε α : Type} (granted : Console → Prop)
    (action : Console → Option (Outcome Console ε α)) : Prop :=
  ∀ first second : Console, first.Alike second → granted first → granted second →
    Option.Rel (Outcome.Alike Alike) (action first) (action second)

open Console (Uniform?)

theorem Console.Uniform.toOption {ε α : Type} {granted : Console → Prop} {action : Action Console ε α}
    (uniform : Console.Uniform granted action) :
    Uniform? granted fun console => some (action console) :=
  fun first second alike now now' => .some (uniform first second alike now now')

theorem Console.Uniform?.map {ε ε' α β : Type} {granted : Console → Prop}
    {action : Console → Option (Outcome Console ε α)} (uniform : Uniform? granted action)
    {f : Outcome Console ε α → Outcome Console ε' β}
    (kept : ∀ first second, Outcome.Alike Alike first second →
      Outcome.Alike Alike (f first) (f second)) : Uniform? granted fun console => (action console).map f :=
  fun first second alike now now' => rel_map (uniform first second alike now now') kept

/-- Going on, where there is an outcome that returned, holds of what it left. -/
def Console.IfReturns? {ε α : Type} (action : Console → Option (Outcome Console ε α))
    (onward : α → Console → Prop) (console : Console) : Prop :=
  ∀ outcome value, action console = some outcome → outcome.ending = .returned value →
    onward value outcome.state

open Console (IfReturns?)

theorem Console.Uniform?.andThen {ε α β : Type} {granted : Console → Prop}
    {action : Console → Option (Outcome Console ε α)} (uniform : Uniform? granted action)
    {next : α → Console → Option (Outcome Console ε β)} {onward : α → Console → Prop}
    (later : ∀ value, Uniform? (onward value) (next value)) :
    Uniform? (fun console => granted console ∧ IfReturns? action onward console)
      fun console => Outcome.andThen? (action console) next := by
  intro first second alike ⟨now, granted⟩ ⟨now', granted'⟩
  refine Outcome.andThen?_alike (uniform first second alike now now') ?_
  intro outcome outcome' value found found' returned returned' alike
  exact later value _ _ alike (granted _ _ found returned) (granted' _ _ found' returned')

/-! ### Scripts -/

/-- No request for a buffer that answering makes reaches the limit; `granted` tells the same of the
methods of the receiver. -/
def Request.Grants (granted : (method : Method) → method.Argument → Console → Prop) :
    Request → Console → Prop
  | .base method _, console => Base.Grants method console
  | .call method argument, console => granted method argument console
  | .write _, _ | .flush, _ => True
  | .readLine, console => console.stream.GrantsUntil isLineEnd
  | .readToken, console => console.stream.GrantsToken

/-- All that the script asks for on its way is granted. -/
def Script.Grants {α : Type} (calls : Calls)
    (granted : (method : Method) → method.Argument → Console → Prop) : Script α → Console → Prop
  | .done _, _ => True
  | .ask request next, console =>
      request.Grants granted console ∧
        IfReturns? (request.perform calls) (fun answer => (next answer).Grants calls granted) console

section Script

variable {calls : Calls} {granted : (method : Method) → method.Argument → Console → Prop}

theorem Request.perform_uniform
    (uniform : ∀ method argument, Uniform? (granted method argument) (calls method argument))
    (request : Request) : Uniform? (request.Grants granted) (request.perform calls) := by
  cases request with
  | base method argument =>
      exact (Base.call_uniform method argument).toOption.map fun _ _ alike => alike.attempt
  | call method argument => exact (uniform method argument).map fun _ _ alike => alike.attempt
  | write text => exact (Console.write_uniform text).toOption.map fun _ _ alike => alike.attempt
  | flush => exact Console.flush_uniform.toOption.map fun _ _ alike => alike.attempt
  | readLine => exact Console.readLine_uniform.toOption.map fun _ _ alike => alike.attempt
  | readToken => exact Console.readToken_uniform.toOption.map fun _ _ alike => alike.attempt

/-- A script that is answered alike asks for the same and comes out alike. -/
theorem Script.run_uniform {α : Type}
    (uniform : ∀ method argument, Uniform? (granted method argument) (calls method argument))
    (script : Script α) : Uniform? (script.Grants calls granted) (script.run calls) := by
  induction script with
  | done result =>
      intro first second alike _ _
      cases result with
      | ok value => exact .some ⟨rfl, alike⟩
      | error fault => exact .some ⟨rfl, alike⟩
  | ask request next ih => exact (request.perform_uniform uniform).andThen ih

end Script

/-! ### Calls -/

/-- All that a call asks for on its way is granted, that of the calls nested in it included. -/
def Table.Grants (table : Table) :
    Nat → (method : Method) → method.Argument → Console → Prop
  | 0 => fun _ _ _ => True
  | depth + 1 => fun method argument =>
      ((table.slot method).implementation argument).Grants (table.calls depth) (table.Grants depth)

theorem Table.calls_uniform (table : Table) (depth : Nat) (method : Method)
    (argument : method.Argument) :
    Uniform? (table.Grants depth method argument) (table.calls depth method argument) := by
  induction depth generalizing method with
  | zero => exact fun _ _ _ _ _ => .none
  | succ depth ih => exact Script.run_uniform ih _

end RootObject
