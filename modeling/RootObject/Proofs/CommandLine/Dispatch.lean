import RootObject.CommandLine.Command
import RootObject.Proofs.Session.Inherited

/-!
Commands as calls on an object. The program makes a plain instance of the root class, and a command does
its work by calling methods of it: each as the object's table has it, and each print of a chain on the
object that the print before it returned (`Command.runOn`). On an object that inherits all of its methods
this comes to what the command does by the root's own (`Command.runOn_inherited`), and so it does on a
plain instance (`Command.runOn_root`).
-/

namespace RootObject

/-- Where everything that follows has an outcome, so has the sequence. -/
theorem Outcome.andThen?_some {σ ε α β : Type} (outcome : Outcome σ ε α)
    {next? : α → σ → Option (Outcome σ ε β)} {next : α → Action σ ε β}
    (same : ∀ value state, next? value state = some (next value state)) :
    andThen? (some outcome) next? = some (outcome.andThen next) := by
  rcases outcome with ⟨value | _ | _, state, events⟩
  · simp only [andThen?, andThen, same, Option.map_some]
  · rfl
  · rfl

namespace CommandLine.Command

/-- What is done at a console by calling methods. There is no outcome where calls nest too deep. -/
abbrev Work : Type :=
  Console → Option (Outcome Console Fault Unit)

/-- One thing after another, as long as they return. -/
def inTurn : List Work → Work
  | [], console => some ⟨.returned (), console, []⟩
  | work :: rest, console => Outcome.andThen? (work console) fun _ => inTurn rest

/-- Prints one thing after another, each on the object that the call before it returned. -/
def printOn (object : Object) (depth : Nat) (printings : List Printing) : Work := fun console =>
  (object.chain depth (printings.map fun printing => (.dispatched, printing)) console).map
    (Outcome.map fun _ => ())

/-- Reads a value and prints it on a line of its own. -/
def echoOn (object : Object) (depth : Nat) (method : Method) (argument : method.Argument)
    (printing : method.Reply → Printing) : Work := fun console =>
  Outcome.andThen? (object.call .dispatched depth method argument console) fun value =>
    printOn object depth [printing value, .text "\n"]

/-- Lists a slot of the object's table. -/
def listSlotOn (object : Object) (depth : Nat) (method : Method) : Work :=
  printOn object depth [.int32 (Int32.ofNat method.slot), .text "\t", .text method.name, .text "\t",
    .text (object.table.implementor method), .text "\n"]

/-- What a command does with an object before its output is flushed. -/
def bodyOn (object : Object) (depth : Nat) : Command → Work
  | print text => printOn object depth [.text text]
  | printBool value => printOn object depth [.bool value]
  | printInt32 value => printOn object depth [.int32 value]
  | inputLine count => inTurn (List.replicate count (echoOn object depth .inputLine () .text))
  | inputBool count => inTurn (List.replicate count (echoOn object depth .inputBool () .bool))
  | inputInt32 count => inTurn (List.replicate count (echoOn object depth .inputInt32 () .int32))
  | vtable => inTurn (Method.all.map (listSlotOn object depth))

/-- A command run with an object, when at most `depth` calls may be nested. -/
def runOn (object : Object) (depth : Nat) (command : Command) : Work := fun console =>
  Outcome.andThen? (command.bodyOn object depth console) fun _ console =>
    some (Console.flush.mapError (Fault.io .print) console)

/-! ### Sequences -/

variable {work : Work} {action : Action Console Fault Unit}

theorem inTurn_replicate (same : ∀ console, work console = some (action console)) (n : Nat)
    (console : Console) :
    inTurn (List.replicate n work) console = some (Action.times n action console) := by
  induction n generalizing console with
  | zero => rfl
  | succ n ih =>
      rw [List.replicate_succ, inTurn, same, Action.times_succ]
      exact Outcome.andThen?_some _ fun _ console => ih console

theorem inTurn_map {α : Type} {work : α → Work} {action : α → Action Console Fault Unit}
    (same : ∀ a console, work a console = some (action a console)) (as : List α) (console : Console) :
    inTurn (as.map work) console = some (as.forM action console) := by
  induction as generalizing console with
  | nil => rfl
  | cons a as ih =>
      rw [List.map_cons, inTurn, same]
      exact Outcome.andThen?_some _ fun _ console => ih console

/-! ### Inherited methods -/

section Inherited

variable {table : Table} (inherits : ∀ method, table.Inherits method) (depth : Nat)

include inherits

theorem printOn_inherited (printings : List Printing) (console : Console) :
    printOn ⟨table⟩ (depth + 1) printings console = some (Base.printAll printings console) := by
  rw [printOn, Object.chain_inherited fun printing _ => inherits printing.method]
  rcases Base.printAll printings console with ⟨_ | _ | _, state, events⟩ <;> rfl

theorem echoOn_inherited (method : Method) (argument : method.Argument)
    (printing : method.Reply → Printing) (console : Console) :
    echoOn ⟨table⟩ (depth + 1) method argument printing console =
      some (echo (Base.call method argument) (fun value => (printing value).base) console) := by
  rw [echoOn, Object.call_inherited (inherits method)]
  exact Outcome.andThen?_some _ fun value console => printOn_inherited inherits depth _ console

theorem listSlotOn_inherited (method : Method) (console : Console) :
    listSlotOn ⟨table⟩ (depth + 1) method console = some (listSlot method console) := by
  have owner : table.implementor method = Table.root.implementor method := by
    rw [Table.implementor, Table.slot_of_inherits (inherits method)]
    rfl
  rw [listSlotOn, printOn_inherited inherits, owner]
  rfl

theorem bodyOn_inherited (command : Command) (console : Console) :
    command.bodyOn ⟨table⟩ (depth + 1) console = some (command.body console) := by
  have prints := printOn_inherited inherits depth
  have echoes := echoOn_inherited inherits depth
  cases command with
  | print text => exact prints [.text text] console
  | printBool value => exact prints [.bool value] console
  | printInt32 value => exact prints [.int32 value] console
  | inputLine count => exact inTurn_replicate (echoes .inputLine () .text) count console
  | inputBool count => exact inTurn_replicate (echoes .inputBool () .bool) count console
  | inputInt32 count => exact inTurn_replicate (echoes .inputInt32 () .int32) count console
  | vtable => exact inTurn_map (listSlotOn_inherited inherits depth) Method.all console

/-- On an object that inherits all of its methods a command does what it does by the root's own. -/
theorem runOn_inherited (command : Command) (console : Console) :
    command.runOn ⟨table⟩ (depth + 1) console = some (command.run console) := by
  rw [runOn, bodyOn_inherited inherits]
  exact Outcome.andThen?_some _ fun _ _ => rfl

end Inherited

/-- A command calls its methods on a plain instance of the root class: by dispatch or directly, the
outcome is the same. -/
theorem runOn_root (command : Command) (depth : Nat) (console : Console) :
    command.runOn .root (depth + 1) console = some (command.run console) :=
  runOn_inherited (fun _ => .root) depth command console

end CommandLine.Command
end RootObject
