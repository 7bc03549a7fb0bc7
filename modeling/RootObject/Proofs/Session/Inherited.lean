import RootObject.Proofs.Console.Delivery
import RootObject.Proofs.Dispatch.Lookup
import RootObject.Proofs.Session.Sharing

/-!
Methods that a table inherits from the root class. Their slots hold the root's implementations however
often the table was derived, and these ask nothing of their receiver, so a call of one is the call of the
root's own (`Object.call_inherited`). Sessions that make only such calls on an object cannot tell it from
a plain instance of the root class, whatever its table has in the other slots
(`Session.run_inherited`).
-/

namespace RootObject

/-! ### Slots -/

/-- The table comes from the root's by deriving and substituting, but never was anything substituted for
the method. -/
inductive Table.Inherits (method : Method) : Table → Prop where
  | root : Inherits method .root
  | derive {parent : Table} (inherits : Inherits method parent) (name : String) :
      Inherits method (parent.derive name)
  | substitute {table : Table} {other : Method} (inherits : Inherits method table)
      (different : other ≠ method) (implementation : Implementation other) :
      Inherits method (table.substitute other implementation)

theorem Table.slot_of_inherits {table : Table} {method : Method} (inherits : table.Inherits method) :
    table.slot method = ⟨Script.base method, "Object"⟩ := by
  induction inherits with
  | root => rfl
  | derive _ _ ih => exact ih
  | substitute _ different implementation ih =>
      exact (slot_substitute_other _ implementation different).trans ih

/-! ### Calls -/

/-- The script of a base implementation comes to what the implementation comes to, whatever the methods
of the receiver are. -/
theorem Script.run_base (calls : Calls) (method : Method) (argument : method.Argument)
    (console : Console) :
    (Script.base method argument).run calls console = some (Base.call method argument console) := by
  change Outcome.andThen? (some (Base.call method argument console).attempt) _ = _
  rcases Base.call method argument console with ⟨_ | _ | _, state, events⟩
  · simp [Outcome.attempt, Outcome.andThen?, Script.run, Action.ofExcept, Action.pure_apply,
      Outcome.after]
  · simp [Outcome.attempt, Outcome.andThen?, Script.run, Action.ofExcept, Action.fail, Outcome.after]
  · rfl

/-- A printing method of the root class returns the very object it was called on. -/
theorem Printing.base_returned (printing : Printing) {console : Console} {receiver : Receiver}
    (returned : (printing.base console).ending = .returned receiver) : receiver = .self := by
  rw [printing.base_eq, Base.write, Action.bind_apply] at returned
  unfold Outcome.andThen at returned
  split at returned
  · cases returned
    rfl
  · cases returned
  · cases returned

/-- Prints one thing after another as the root class does. -/
def Base.printAll : List Printing → Action Console Fault Unit
  | [] => pure ()
  | printing :: rest => do
      let _ ← printing.base
      printAll rest

namespace Object

variable {table : Table} {way : Way} {depth : Nat} {console : Console}

/-- The call of an inherited method is that of the root's own. -/
theorem call_inherited {method : Method} (inherits : table.Inherits method)
    (argument : method.Argument) :
    call ⟨table⟩ way (depth + 1) method argument console =
      some (Base.call method argument console) := by
  cases way with
  | direct => rfl
  | dispatched =>
      change ((table.slot method).implementation argument).run (table.calls depth) console = _
      rw [Table.slot_of_inherits inherits]
      exact Script.run_base _ method argument console

theorem print_inherited {printing : Printing} (inherits : table.Inherits printing.method) :
    print ⟨table⟩ way (depth + 1) printing console = some (printing.base console) := by
  cases printing with
  | text text => exact call_inherited inherits text
  | bool value => exact call_inherited inherits value
  | int32 value => exact call_inherited inherits value

/-- Every call of a chain is made on the object that the chain began with, and it returns that one. -/
theorem chain_inherited {printings : List Printing}
    (inherits : ∀ printing ∈ printings, table.Inherits printing.method) :
    Object.chain ⟨table⟩ (depth + 1) (printings.map fun printing => (way, printing)) console =
      some ((Base.printAll printings console).map fun _ => ⟨table⟩) := by
  induction printings generalizing console with
  | nil => rfl
  | cons printing rest ih =>
      obtain ⟨now, later⟩ := List.forall_mem_cons.mp inherits
      rw [List.map_cons, Object.chain, print_inherited now, Base.printAll, Action.bind_apply]
      rcases outcome : printing.base console with ⟨receiver | _ | _, state, events⟩
      · have same : receiver = .self := printing.base_returned (congrArg Outcome.ending outcome)
        subst same
        simp only [Outcome.andThen?, Outcome.andThen, returned, ih later]
        rfl
      · rfl
      · rfl

end Object

/-! ### What is done on an object -/

/-- What a session does in a step, apart from the object that it is done on. -/
inductive Deed where
  | call (method : Method) (argument : method.Argument)
  | chain (printings : List Printing)
  /-- A step that is the same whatever the object is. -/
  | aside (step : Step)

namespace Deed

/-- The deed on an object, whose methods are reached in one way. -/
def step (object : Object) (way : Way) : Deed → Step
  | .call method argument => .call object way method argument
  | .chain printings => .chain object (printings.map fun printing => (way, printing))
  | .aside step => step

/-- The methods that are called are inherited. -/
def Inherits (table : Table) : Deed → Prop
  | .call method _ => table.Inherits method
  | .chain printings => ∀ printing ∈ printings, table.Inherits printing.method
  | .aside _ => True

/-- Whether an object is what the deed brings. -/
def Prints : Deed → Prop
  | .call method _ => method = .print ∨ method = .printBool ∨ method = .printInt32
  | .chain _ => True
  | .aside _ => False

/-- The deed as the root class does it; what is returned is told of the object. -/
def perform (object : Object) (depth : Nat) :
    Deed → Console → Option (Outcome Console Step.Error Step.Reply)
  | .call method argument, console =>
      some (((Base.call method argument console).map (Step.Reply.of object method)).mapError .fault)
  | .chain printings, console =>
      let outcome := (Base.printAll printings console).map fun _ => object
      some ((outcome.map Step.Reply.object).mapError .fault)
  | .aside step, console => step.perform depth console

theorem inherits_root (deed : Deed) : deed.Inherits .root := by
  cases deed with
  | call method argument => exact .root
  | chain printings => exact fun _ _ => .root
  | aside step => trivial

/-- What is not done on the object has an outcome at every console. -/
def Answers (depth : Nat) : Deed → Prop
  | .aside step => ∀ console, (step.perform depth console).isSome
  | .call _ _ | .chain _ => True

variable {table : Table} {deed : Deed} {way : Way} {depth : Nat} {console : Console}

theorem perform_step (inherits : deed.Inherits table) :
    (deed.step ⟨table⟩ way).perform (depth + 1) console =
      deed.perform ⟨table⟩ (depth + 1) console := by
  cases deed with
  | call method argument =>
      rw [step, Step.perform, Object.call_inherited inherits]
      rfl
  | chain printings =>
      rw [step, Step.perform, Object.chain_inherited inherits]
      rfl
  | aside step => rfl

theorem isSome_perform_step (inherits : deed.Inherits table) (answers : deed.Answers (depth + 1)) :
    ((deed.step ⟨table⟩ way).perform (depth + 1) console).isSome := by
  rw [perform_step inherits]
  cases deed with
  | call method argument => rfl
  | chain printings => rfl
  | aside step => exact answers console

end Deed

/-- What a step brings, whichever object that is. -/
def Step.Reply.anonymous : Step.Reply → Step.Reply
  | .object _ => .nothing
  | reply => reply

theorem Step.Reply.anonymous_of (object object' : Object) (method : Method) (reply : method.Reply) :
    (Reply.of object method reply).anonymous = (Reply.of object' method reply).anonymous := by
  cases method <;> rfl

namespace Deed

variable {deed : Deed} {depth : Nat} {console : Console}

/-- Which object it was done on shows in what is returned only. -/
theorem perform_anonymous (deed : Deed) (object object' : Object) (depth : Nat) (console : Console) :
    (deed.perform object depth console).map (Outcome.map Step.Reply.anonymous) =
      (deed.perform object' depth console).map (Outcome.map Step.Reply.anonymous) := by
  cases deed with
  | call method argument =>
      have same := fun reply => Step.Reply.anonymous_of object object' method reply
      rcases outcome : Base.call method argument console with ⟨_ | _ | _, state, events⟩ <;>
        simp [perform, outcome, Outcome.map, Outcome.mapError, Ending.map, Ending.mapError, same]
  | chain printings =>
      rcases outcome : Base.printAll printings console with ⟨_ | _ | _, state, events⟩ <;>
        simp [perform, outcome, Outcome.map, Outcome.mapError, Ending.map, Ending.mapError,
          Step.Reply.anonymous]
  | aside step => rfl

/-- What prints and returns, returns the object it was done on. -/
theorem reply_of_prints {object : Object} {outcome : Outcome Console Step.Error Step.Reply}
    {reply : Step.Reply} (prints : deed.Prints)
    (performed : deed.perform object depth console = some outcome)
    (returned : outcome.ending = .returned reply) : reply = .object object := by
  cases deed with
  | call method argument =>
      cases performed
      obtain ⟨value, ended, rfl⟩ := Ending.map_eq_returned (Ending.mapError_eq_returned returned)
      rcases prints with rfl | rfl | rfl
      · rw [Printing.base_returned (.text argument) ended]
        rfl
      · rw [Printing.base_returned (.bool argument) ended]
        rfl
      · rw [Printing.base_returned (.int32 argument) ended]
        rfl
  | chain printings =>
      cases performed
      obtain ⟨last, ended, rfl⟩ := Ending.map_eq_returned (Ending.mapError_eq_returned returned)
      obtain ⟨-, -, rfl⟩ := Ending.map_eq_returned ended
      rfl
  | aside step => exact absurd prints id

end Deed

/-! ### Sessions -/

namespace Session

/-- The deeds one after another, each at its terminal, on one object. -/
def runOn (object : Object) (way : Way) (depth : Nat) (deeds : List (Nat × Deed)) (session : Session) :
    Option (List (Outcome Session Step.Error Step.Reply)) :=
  run depth (deeds.map fun (terminal, deed) => (terminal, deed.step object way)) session

/-! ### Objects that cannot be told from a plain one -/

section Inherited

variable {table : Table} {depth : Nat} {deeds : List (Nat × Deed)} {session : Session}

/-- By the table or as the root class has it, the methods are the same. -/
theorem runOn_way (inherits : ∀ deed ∈ deeds, deed.2.Inherits table) (way way' : Way) :
    session.runOn ⟨table⟩ way (depth + 1) deeds = session.runOn ⟨table⟩ way' (depth + 1) deeds := by
  have alike : ∀ deed ∈ deeds, ∀ console,
      (((deed.2.step ⟨table⟩ way).perform (depth + 1) console).map (Outcome.map id)) =
        ((deed.2.step ⟨table⟩ way').perform (depth + 1) console).map (Outcome.map id) := by
    intro deed among console
    rw [Deed.perform_step (inherits deed among), Deed.perform_step (inherits deed among)]
  have same := run_congr id session alike
  have told : @Outcome.map Session Step.Error Step.Reply Step.Reply id = id := by
    funext outcome
    rcases outcome with ⟨_ | _ | _, state, events⟩ <;> rfl
  rwa [told, List.map_id_fun, Option.map_id_fun, id, id] at same

theorem runOn_anonymous {table' : Table} (inherits : ∀ deed ∈ deeds, deed.2.Inherits table)
    (inherits' : ∀ deed ∈ deeds, deed.2.Inherits table') (way way' : Way) :
    (session.runOn ⟨table⟩ way (depth + 1) deeds).map (List.map (Outcome.map Step.Reply.anonymous)) =
      (session.runOn ⟨table'⟩ way' (depth + 1) deeds).map
        (List.map (Outcome.map Step.Reply.anonymous)) := by
  refine run_congr Step.Reply.anonymous session fun deed among console => ?_
  rw [Deed.perform_step (inherits deed among), Deed.perform_step (inherits' deed among)]
  exact deed.2.perform_anonymous _ _ _ _

end Inherited

/-- A session that calls only inherited methods on an object comes to the same as with the root's own
implementations in their stead, and as on a plain instance of the root class: each step ends alike, logs
the same and leaves the same streams and sinks, whatever these do and whatever else the table holds.
Only which object a printing step returned may differ, and that is the one it was called on. Such a call
always has an outcome, so the session has if the steps that are the same anyway do. -/
theorem run_inherited (table : Table) (depth : Nat) (deeds : List (Nat × Deed)) (session : Session)
    (inherits : ∀ deed ∈ deeds, deed.2.Inherits table) :
    let outcomes? := session.runOn ⟨table⟩ .dispatched (depth + 1) deeds
    outcomes? = session.runOn ⟨table⟩ .direct (depth + 1) deeds ∧
    outcomes?.map (List.map (Outcome.map Step.Reply.anonymous)) =
      (session.runOn .root .dispatched (depth + 1) deeds).map
        (List.map (Outcome.map Step.Reply.anonymous)) ∧
    (∀ outcomes, outcomes? = some outcomes →
      List.Forall₂ (fun deed outcome => deed.2.Prints → ∀ reply, outcome.ending = .returned reply →
        reply = .object ⟨table⟩) deeds outcomes) ∧
    ((∀ deed ∈ deeds, (session.console? deed.1).isSome ∧ deed.2.Answers (depth + 1)) →
      outcomes?.isSome) := by
  intro outcomes?
  refine ⟨runOn_way inherits .dispatched .direct, ?plain, ?returned, ?answered⟩
  case plain => exact runOn_anonymous inherits (fun deed _ => deed.2.inherits_root) .dispatched .dispatched
  case returned =>
      intro outcomes ran
      refine forall₂_run (fun deed among session outcome taken prints reply ended => ?_) ran
      obtain ⟨console, -, taken⟩ := Option.bind_eq_some_iff.mp taken
      obtain ⟨own, performed, left⟩ := Option.bind_eq_some_iff.mp taken
      rw [Deed.perform_step (inherits deed among)] at performed
      cases left
      exact Deed.reply_of_prints prints performed ended
  case answered =>
      intro answers
      refine isSome_run ?_ ?_
      · intro step among
        obtain ⟨deed, listed, rfl⟩ := List.mem_map.mp among
        exact (answers deed listed).1
      · intro step among console
        obtain ⟨deed, listed, rfl⟩ := List.mem_map.mp among
        exact Deed.isSome_perform_step (inherits deed listed) (answers deed listed).2

/-- A type that counts what its `print` is given and reads two lines at once, at a sink that gives way
and over a source that fails. -/
theorem run_inherited_counting :
    let table := (((Table.root.derive "First").substitute .print Overrides.count).derive
      "Second").substitute .inputLine Overrides.twoLines
    let session : Session := ⟨[Stream.ofSource [.data [0x34, 0x32, 0x20], .failure ⟨.timedOut, none⟩] 1],
      [⟨{}, .scripted [.acceptAtMost 3], 0, true⟩,
        ⟨{}, .scripted [.refuse ⟨.brokenPipe, none⟩], 0, true⟩]⟩
    let deeds : List (Nat × Deed) := [(0, .chain [.bool true, .int32 (-7)]), (1, .call .inputInt32 ()),
      (0, .call .inputInt32 ()), (0, .aside .readToken), (1, .call .printBool false)]
    (∀ deed ∈ deeds, deed.2.Inherits table) ∧
    ∃ outcomes, session.runOn ⟨table⟩ .dispatched 2 deeds = some outcomes ∧
      outcomes.head?.map Outcome.ending = some (.returned (.object ⟨table⟩)) ∧
      outcomes.map (fun outcome =>
        (outcome.state.terminals.map fun seat => seat.sink.accepted, outcome.events)) = [
          ([Utf8.encode "true-7", []], []), ([Utf8.encode "true-7", []], []),
          ([Utf8.encode "true-7", []],
            [.bufferGrown 1 2, .tokenRead "42", .integerParsed .inputInt32 42]),
          ([Utf8.encode "true-7", []], []), ([Utf8.encode "true-7", Utf8.encode "false"], [])] := by
  intro table session deeds
  have inherited : ∀ method, .print ≠ method → .inputLine ≠ method → table.Inherits method :=
    fun method other other' =>
      ((((Table.Inherits.root.derive _).substitute other _).derive _).substitute other' _)
  have inherits : ∀ deed ∈ deeds, deed.2.Inherits table := by
    simp only [deeds, List.forall_mem_cons]
    refine ⟨?_, ?_, ?_, trivial, ?_, fun _ none => absurd none List.not_mem_nil⟩
    · intro printing among
      simp only [List.mem_cons, List.not_mem_nil, or_false] at among
      rcases among with rfl | rfl <;> exact inherited _ (by decide) (by decide)
    · exact inherited _ (by decide) (by decide)
    · exact inherited _ (by decide) (by decide)
    · exact inherited _ (by decide) (by decide)
  obtain ⟨same, plain, -, answered⟩ := run_inherited table 1 deeds session inherits
  have ready : ∀ deed ∈ deeds, (session.console? deed.1).isSome ∧ deed.2.Answers 2 := by
    simp only [deeds, List.forall_mem_cons]
    exact ⟨⟨rfl, trivial⟩, ⟨rfl, trivial⟩, ⟨rfl, trivial⟩, ⟨rfl, fun _ => rfl⟩, ⟨rfl, trivial⟩,
      fun _ none => absurd none List.not_mem_nil⟩
  obtain ⟨outcomes, ran⟩ := Option.isSome_iff_exists.mp (answered ready)
  rw [ran] at same plain
  refine ⟨inherits, outcomes, ran, ?_, ?_⟩
  · have first : (session.runOn ⟨table⟩ .direct 2 deeds).map (fun outcomes => outcomes.head?.map
        Outcome.ending) = some (some (.returned (.object ⟨table⟩))) := rfl
    rw [← same] at first
    exact Option.some.inj first
  · have shown := congrArg (Option.map (List.map fun outcome =>
      (outcome.state.terminals.map fun seat => seat.sink.accepted, outcome.events))) plain
    rw [Option.map_some, Option.map_some, List.map_map] at shown
    refine Option.some.inj (shown.trans ?_)
    rw [Option.map_map]
    decide +kernel

end Session
end RootObject
