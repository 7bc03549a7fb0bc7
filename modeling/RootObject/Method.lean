/-!
The six operations of the root class, in the order of their slots in a dispatch table.
-/

namespace RootObject

inductive Method where
  | print
  | printBool
  | printInt32
  | inputLine
  | inputBool
  | inputInt32
  deriving DecidableEq, Repr

namespace Method

/-- All methods, each at its slot. -/
def all : List Method :=
  [.print, .printBool, .printInt32, .inputLine, .inputBool, .inputInt32]

/-- The name that programs of the language call the method by. -/
def name : Method → String
  | .print => "print"
  | .printBool => "printBool"
  | .printInt32 => "printInt32"
  | .inputLine => "inputLine"
  | .inputBool => "inputBool"
  | .inputInt32 => "inputInt32"

/-- The name with a capital, as lists of overridden methods show it. -/
def label : Method → String
  | .print => "Print"
  | .printBool => "PrintBool"
  | .printInt32 => "PrintInt32"
  | .inputLine => "InputLine"
  | .inputBool => "InputBool"
  | .inputInt32 => "InputInt32"

def slot : Method → Nat
  | .print => 0
  | .printBool => 1
  | .printInt32 => 2
  | .inputLine => 3
  | .inputBool => 4
  | .inputInt32 => 5

/-- The name under its class, as messages show it. -/
def qualifiedName (method : Method) : String :=
  "Object::" ++ method.name

def ofName? (name : String) : Option Method :=
  all.find? fun method => method.name = name

theorem getElem?_all_slot (method : Method) : all[method.slot]? = some method := by
  cases method <;> rfl

theorem ofName?_name (method : Method) : ofName? method.name = some method := by
  cases method <;> decide

end Method
end RootObject
