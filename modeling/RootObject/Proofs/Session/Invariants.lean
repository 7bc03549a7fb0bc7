import RootObject.Proofs.Action
import RootObject.Session

/-!
What every step does to its console, and what it keeps. Scripts, and the calls nested in them, do nothing to
a console but what the four operations of a console do, and log nothing else than these and the values that
were parsed. So a law that these follow, and one thing after another where each does, is followed by every
step (`Step.perform_obeys`), however an operation ends and whatever a script makes of an error. What the
operations keep is such a law (`Step.perform_keeps`).
-/

namespace RootObject

/-! ### Consoles -/

namespace Console

/-- What a console is at first, what is logged, and what becomes of the console. -/
abbrev Law : Type :=
  Console → List Log.Event → Console → Prop

section Law

variable {ε ε' α β : Type} {law : Law}

def Follows (law : Law) (action : Action Console ε α) : Prop :=
  ∀ console, law console (action console).events (action console).state

/-- The law holds of one thing after another, of what logs a value, and of the operations of a console,
however they end. -/
structure Lawful (law : Law) : Prop where
  idle : ∀ console, law console [] console
  append : ∀ {first mid last logged logged'}, law first logged mid → law mid logged' last →
    law first (logged ++ logged') last
  parsed : ∀ console event, event.target = .object → law console [event] console
  write : ∀ text, Follows law (Console.write text)
  flush : Follows law Console.flush
  readLine : Follows law Console.readLine
  readToken : Follows law Console.readToken

theorem Lawful.pure (lawful : Lawful law) (value : α) : Follows law (pure value : Action Console ε α) :=
  lawful.idle

theorem Lawful.bind (lawful : Lawful law) {action : Action Console ε α} {next : α → Action Console ε β}
    (first : Follows law action) (later : ∀ value, Follows law (next value)) :
    Follows law (action >>= next) := by
  intro console
  have now := first console
  rw [Action.bind_apply]
  unfold Outcome.andThen
  split
  · exact lawful.append now (later _ _)
  · exact now
  · exact now

/-- Whatever the action comes to, the law holds of it. -/
def Obeys (law : Law) (action : Console → Option (Outcome Console ε α)) : Prop :=
  ∀ console outcome, action console = some outcome → law console outcome.events outcome.state

variable {action : Console → Option (Outcome Console ε α)}

/-- How an outcome is told, and what it is an answer to, has no part in the law. -/
theorem Follows.obeys {action : Action Console ε α} (follows : Follows law action)
    (f : Outcome Console ε α → Outcome Console ε' β)
    (same : ∀ outcome, (f outcome).state = outcome.state ∧ (f outcome).events = outcome.events) :
    Obeys law fun console => some (f (action console)) := by
  intro console outcome performed
  cases performed
  rw [(same _).1, (same _).2]
  exact follows console

theorem Obeys.map (obeys : Obeys law action) (f : Outcome Console ε α → Outcome Console ε' β)
    (same : ∀ outcome, (f outcome).state = outcome.state ∧ (f outcome).events = outcome.events) :
    Obeys law fun console => (action console).map f := by
  intro console outcome performed
  obtain ⟨first, found, rfl⟩ := Option.map_eq_some_iff.mp performed
  rw [(same _).1, (same _).2]
  exact obeys console first found

theorem Lawful.andThen (lawful : Lawful law) (obeys : Obeys law action)
    {next : α → Console → Option (Outcome Console ε β)} (later : ∀ value, Obeys law (next value)) :
    Obeys law fun console => Outcome.andThen? (action console) next := by
  intro console outcome performed
  change Outcome.andThen? (action console) next = some outcome at performed
  unfold Outcome.andThen? at performed
  split at performed
  · cases performed
  · next value left logged found =>
      obtain ⟨last, went, rfl⟩ := Option.map_eq_some_iff.mp performed
      exact lawful.append (obeys console _ found) (later value left last went)
  · next error left logged found =>
      cases performed
      exact obeys console _ found
  · next message left logged found =>
      cases performed
      exact obeys console _ found

end Law

end Console

open Console (Law Lawful Follows Obeys)

section Obeys

variable {law : Law} (lawful : Lawful law)

include lawful

/-! ### The root class -/

theorem Base.call_follows (method : Method) (argument : method.Argument) :
    Follows law (Base.call method argument) := by
  have printed : ∀ method text, Follows law (Base.write method text) :=
    fun method text => lawful.bind (lawful.write text) fun _ => lawful.pure _
  have literal : ∀ {α : Type} (method : Method) (expected : LiteralKind)
      (parse : String → Except LiteralError α) (parsed : α → Log.Event),
      (∀ value, (parsed value).target = .object) →
      Follows law (Base.inputLiteral method expected parse parsed) := by
    intro α method expected parse parsed ofObject
    refine lawful.bind lawful.readToken fun token => ?_
    cases parse token with
    | ok value => exact lawful.bind (lawful.parsed · _ (ofObject value)) fun _ => lawful.pure value
    | error error => exact lawful.idle
  cases method with
  | print => exact printed .print argument
  | printBool => exact printed .printBool _
  | printInt32 => exact printed .printInt32 _
  | inputLine => exact lawful.readLine
  | inputBool => exact literal .inputBool .boolean parseBool _ fun _ => rfl
  | inputInt32 => exact literal .inputInt32 .integer parseInt32 _ fun _ => rfl

/-! ### Scripts and calls -/

theorem Request.perform_obeys {calls : Calls} (obeys : ∀ method argument, Obeys law (calls method argument))
    (request : Request) : Obeys law (request.perform calls) := by
  -- An answer tells the same of the console as the outcome that it is made of.
  have same : ∀ {ε α : Type} (outcome : Outcome Console ε α),
      (outcome.attempt : Outcome Console Fault (Except ε α)).state = outcome.state ∧
        (outcome.attempt : Outcome Console Fault (Except ε α)).events = outcome.events :=
    fun _ => ⟨rfl, rfl⟩
  cases request with
  | base method argument => exact (Base.call_follows lawful method argument).obeys _ same
  | call method argument => exact (obeys method argument).map _ same
  | write text => exact (lawful.write text).obeys _ same
  | flush => exact lawful.flush.obeys _ same
  | readLine => exact lawful.readLine.obeys _ same
  | readToken => exact lawful.readToken.obeys _ same

theorem Script.run_obeys {α : Type} {calls : Calls}
    (obeys : ∀ method argument, Obeys law (calls method argument)) (script : Script α) :
    Obeys law (script.run calls) := by
  induction script with
  | done result =>
      intro console outcome performed
      cases performed
      cases result with
      | ok value => exact lawful.idle console
      | error fault => exact lawful.idle console
  | ask request next ih => exact lawful.andThen (request.perform_obeys lawful obeys) ih

theorem Table.calls_obeys (table : Table) (depth : Nat) (method : Method) (argument : method.Argument) :
    Obeys law (table.calls depth method argument) := by
  induction depth generalizing method with
  | zero =>
      intro console outcome performed
      cases performed
  | succ depth ih => exact Script.run_obeys lawful ih _

/-! ### Steps -/

theorem Object.call_obeys (object : Object) (way : Way) (depth : Nat) (method : Method)
    (argument : method.Argument) : Obeys law (object.call way depth method argument) := by
  cases way with
  | dispatched => exact object.table.calls_obeys lawful depth method argument
  | direct => exact (Base.call_follows lawful method argument).obeys id fun _ => ⟨rfl, rfl⟩

theorem Object.print_obeys (object : Object) (way : Way) (depth : Nat) (printing : Printing) :
    Obeys law (object.print way depth printing) := by
  cases printing with
  | text text => exact object.call_obeys lawful way depth .print text
  | bool value => exact object.call_obeys lawful way depth .printBool value
  | int32 value => exact object.call_obeys lawful way depth .printInt32 value

theorem Object.chain_obeys (object : Object) (depth : Nat) (printings : List (Way × Printing)) :
    Obeys law (object.chain depth printings) := by
  induction printings generalizing object with
  | nil =>
      intro console outcome performed
      cases performed
      exact lawful.idle console
  | cons printing rest ih =>
      obtain ⟨way, printing⟩ := printing
      exact lawful.andThen (object.print_obeys lawful way depth printing) fun receiver => ih _

theorem Step.perform_obeys (depth : Nat) (step : Step) : Obeys law (step.perform depth) := by
  -- A step only renames what the action below it ends in.
  have same : ∀ {ε α : Type} (f : α → Reply) (g : ε → Error) (outcome : Outcome Console ε α),
      ((outcome.map f).mapError g).state = outcome.state ∧
        ((outcome.map f).mapError g).events = outcome.events := fun _ _ _ => ⟨rfl, rfl⟩
  cases step with
  | call object way method argument =>
      exact (object.call_obeys lawful way depth method argument).map _ (same _ _)
  | chain object printings => exact (object.chain_obeys lawful depth printings).map _ (same _ _)
  | write text => exact (lawful.write text).obeys _ (same _ _)
  | flush => exact lawful.flush.obeys _ (same _ _)
  | readLine => exact lawful.readLine.obeys _ (same _ _)
  | readToken => exact lawful.readToken.obeys _ (same _ _)

end Obeys

/-! ### What is kept -/

namespace Console

/-- The operations of a console keep this, however they end. -/
structure Invariant (kept : Console → Prop) : Prop where
  write : ∀ text console, kept console → kept (Console.write text console).state
  flush : ∀ console, kept console → kept (Console.flush console).state
  readLine : ∀ console, kept console → kept (Console.readLine console).state
  readToken : ∀ console, kept console → kept (Console.readToken console).state

/-- Whatever the action comes to is kept. -/
def Keeps {ε α : Type} (kept : Console → Prop)
    (action : Console → Option (Outcome Console ε α)) : Prop :=
  ∀ console outcome, kept console → action console = some outcome → kept outcome.state

/-- What is kept, as a law that has nothing to do with what is logged. -/
def Keeping (kept : Console → Prop) : Law :=
  fun before _ after => kept before → kept after

variable {ε α β : Type} {kept : Console → Prop}

theorem Invariant.lawful (invariant : Invariant kept) : Lawful (Keeping kept) where
  idle _ now := now
  append first second now := second (first now)
  parsed _ _ _ now := now
  write := invariant.write
  flush := invariant.flush
  readLine := invariant.readLine
  readToken := invariant.readToken

theorem Obeys.keeps {action : Console → Option (Outcome Console ε α)}
    (obeys : Obeys (Keeping kept) action) : Keeps kept action :=
  fun console outcome now performed => obeys console outcome performed now

theorem Keeps.obeys {action : Console → Option (Outcome Console ε α)} (keeps : Keeps kept action) :
    Obeys (Keeping kept) action :=
  fun console outcome performed now => keeps console outcome now performed

/-- Behind an action that is kept, what is kept goes on. -/
theorem kept_bind {action : Action Console ε α} {next : α → Action Console ε β} {console : Console}
    (first : kept (action console).state)
    (later : ∀ value, ∀ console, kept console → kept (next value console).state) :
    kept ((action >>= next) console).state := by
  rcases Action.state_bind action next console with same | ⟨value, -, same⟩
  · rwa [same]
  · rw [same]
    exact later value _ first

end Console

open Console (Invariant Keeps)

section Keeps

variable {kept : Console → Prop} (invariant : Invariant kept)

include invariant

theorem Base.call_keeps (method : Method) (argument : method.Argument) (console : Console)
    (now : kept console) : kept (Base.call method argument console).state :=
  Base.call_follows invariant.lawful method argument console now

theorem Request.perform_keeps {calls : Calls}
    (keeps : ∀ method argument, Keeps kept (calls method argument)) (request : Request) :
    Keeps kept (request.perform calls) :=
  (request.perform_obeys invariant.lawful fun method argument => (keeps method argument).obeys).keeps

theorem Table.calls_keeps (table : Table) (depth : Nat) (method : Method) (argument : method.Argument) :
    Keeps kept (table.calls depth method argument) :=
  (table.calls_obeys invariant.lawful depth method argument).keeps

theorem Object.print_keeps (object : Object) (way : Way) (depth : Nat) (printing : Printing) :
    Keeps kept (object.print way depth printing) :=
  (object.print_obeys invariant.lawful way depth printing).keeps

theorem Step.perform_keeps (depth : Nat) (step : Step) : Keeps kept (step.perform depth) :=
  (step.perform_obeys invariant.lawful depth).keeps

end Keeps

end RootObject
