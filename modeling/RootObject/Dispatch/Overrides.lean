import RootObject.Dispatch.Table

/-!
A catalogue of implementations that derived types may put into their slots, by the method they are for
and their name.
-/

namespace RootObject.Overrides

/-- Letters of the Latin alphabet in capitals; all else unchanged. -/
def upper (text : String) : Script Receiver :=
  Script.base .print (text.map Char.toUpper)

def star (text : String) : Script Receiver := do
  let _ ← Script.base .print "*"
  let _ ← Script.base .print text
  Script.base .print "*"

def silent (_ : String) : Script Receiver :=
  return .self

/-- Prints, and returns another object than its receiver. -/
def toRoot (text : String) : Script Receiver := do
  let _ ← Script.base .print text
  return .root

/-- Prints the length of the text in bytes instead of the text. -/
def count (text : String) : Script Receiver :=
  Script.call .printInt32 (Int32.ofNat text.utf8ByteSize)

def onFire (_ : String) : Script Receiver :=
  Script.fail (.io .print ⟨.other, some "printer on fire"⟩)

def yesNo (value : Bool) : Script Receiver :=
  Script.call .print (if value then "yes" else "no")

def asDigit (value : Bool) : Script Receiver :=
  Script.call .printInt32 (if value then 1 else 0)

def flip (value : Bool) : Script Receiver :=
  Script.base .printBool !value

/-- Prints brackets by the receiver's `print` and the number between them by the root's. -/
def bracket (value : Int32) : Script Receiver := do
  let _ ← Script.call .print "["
  let _ ← Script.base .printInt32 value
  Script.call .print "]"

/-- The least number is its own negation. -/
def negate (value : Int32) : Script Receiver :=
  Script.base .printInt32 (-value)

/-- Prints whether the number is even instead of the number. -/
def even (value : Int32) : Script Receiver :=
  Script.call .printBool (value % 2 = 0)

def angled (_ : Unit) : Script String := do
  let line ← Script.base .inputLine ()
  return "<" ++ line ++ ">"

/-- A token instead of a line. -/
def token (_ : Unit) : Script String :=
  Script.readToken .inputLine

def twoLines (_ : Unit) : Script String := do
  let first ← Script.base .inputLine ()
  let second ← Script.base .inputLine ()
  return first ++ "|" ++ second

def not (_ : Unit) : Script Bool := do
  let value ← Script.base .inputBool ()
  return !value

/-- Reads nothing. -/
def never (_ : Unit) : Script Bool :=
  return false

def fromInt (_ : Unit) : Script Bool := do
  let value ← Script.call .inputInt32 ()
  return value ≠ 0

def doubled (_ : Unit) : Script Int32 := do
  let value ← Script.base .inputInt32 ()
  return value * 2

def lineLength (_ : Unit) : Script Int32 := do
  let line ← Script.call .inputLine ()
  return Int32.ofNat line.utf8ByteSize

/-- A token that is no integer counts as -1. -/
def lenient (_ : Unit) : Script Int32 := do
  let token ← Script.readToken .inputInt32
  match parseInt32 token with
  | .ok value => return value
  | .error _ => return -1

/-- The implementations with a name, method by method. The root's own is known everywhere. -/
def catalogue : (method : Method) → List (String × Implementation method)
  | .print => [("upper", upper), ("star", star), ("silent", silent), ("to_root", toRoot),
      ("count", count), ("fail", onFire)]
  | .printBool => [("yesno", yesNo), ("digit", asDigit), ("flip", flip)]
  | .printInt32 => [("bracket", bracket), ("negate", negate), ("even", even)]
  | .inputLine => [("quoted", angled), ("token", token), ("two", twoLines)]
  | .inputBool => [("not", not), ("never", never), ("from_int", fromInt)]
  | .inputInt32 => [("doubled", doubled), ("line_len", lineLength), ("lenient", lenient)]

def ofName? (method : Method) (name : String) : Option (Implementation method) :=
  (("base", Script.base method) :: catalogue method).lookup name

end RootObject.Overrides
