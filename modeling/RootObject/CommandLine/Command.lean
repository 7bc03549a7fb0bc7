import RootObject.Dispatch.Table

/-!
The commands of the command line. Each calls methods of a plain instance of the root class on a console
and flushes the console at the end; the ones that read echo what they read, a line for each value. The
methods of such an instance are the root's own, and are called here as such (`Command.runOn_root`).
-/

namespace RootObject.CommandLine

inductive Command where
  | print (text : String)
  | printBool (value : Bool)
  | printInt32 (value : Int32)
  | inputLine (count : Nat)
  | inputBool (count : Nat)
  | inputInt32 (count : Nat)
  | vtable
  deriving DecidableEq, Repr

namespace Command

/-- The command as a value. -/
def text : Command → String
  | print text => recordText "Print" [("text", quoted text)]
  | printBool value => recordText "PrintBool" [("value", if value then "true" else "false")]
  | printInt32 value => recordText "PrintInt32" [("value", Decimal.ofInt value.toInt)]
  | inputLine count => recordText "InputLine" [("count", Decimal.ofNat count)]
  | inputBool count => recordText "InputBool" [("count", Decimal.ofNat count)]
  | inputInt32 count => recordText "InputInt32" [("count", Decimal.ofNat count)]
  | vtable => "Vtable"

/-- Whether the command may read from standard input. -/
def reads : Command → Bool
  | inputLine _ | inputBool _ | inputInt32 _ => true
  | print _ | printBool _ | printInt32 _ | vtable => false

/-- Reads a value and writes it on a line of its own. -/
def echo {α : Type} (input : Action Console Fault α) (print : α → Action Console Fault Receiver) :
    Action Console Fault Unit := do
  let value ← input
  let _ ← print value
  let _ ← Base.print "\n"

/-- Lists a slot of the root's table: its number, its method, and who implements it. -/
def listSlot (method : Method) : Action Console Fault Unit := do
  let _ ← Base.printInt32 (Int32.ofNat method.slot)
  let _ ← Base.print "\t"
  let _ ← Base.print method.name
  let _ ← Base.print "\t"
  let _ ← Base.print (Table.root.implementor method)
  let _ ← Base.print "\n"

/-- What a command does before its output is flushed. -/
def body : Command → Action Console Fault Unit
  | print text => do let _ ← Base.print text
  | printBool value => do let _ ← Base.printBool value
  | printInt32 value => do let _ ← Base.printInt32 value
  | inputLine count => Action.times count (echo Base.inputLine Base.print)
  | inputBool count => Action.times count (echo Base.inputBool Base.printBool)
  | inputInt32 count => Action.times count (echo Base.inputInt32 Base.printInt32)
  | vtable => Method.all.forM listSlot

def run (command : Command) : Action Console Fault Unit := do
  command.body
  Console.flush.mapError (Fault.io .print)

end Command
end RootObject.CommandLine
