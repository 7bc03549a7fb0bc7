import RootObject.Dispatch.Script

/-!
Dispatch tables. A type's table starts as a copy of its parent's under the type's own name, and then has
slots substituted. Every slot names the type that filled it. A table is looked up in one step; that
this agrees with a search along the ancestors is what the copying is for.
-/

namespace RootObject

structure Slot (method : Method) where
  implementation : Implementation method
  /-- The name of the type that filled the slot. -/
  owner : String

/-- One slot for each method. -/
abbrev Slots : Type :=
  (method : Method) → Slot method

namespace Slots

/-- The slots with one of them replaced. -/
def replace (slots : Slots) (method : Method) (slot : Slot method) : Slots :=
  fun other => if same : method = other then same ▸ slot else slots other

@[simp]
theorem replace_same (slots : Slots) (method : Method) (slot : Slot method) :
    slots.replace method slot method = slot := by
  simp [replace]

@[simp]
theorem replace_other (slots : Slots) {method other : Method} (slot : Slot method)
    (different : method ≠ other) : slots.replace method slot other = slots other := by
  simp [replace, different]

end Slots

/-- A type as its descendants see it. -/
structure Layer where
  name : String
  slots : Slots

/-- The table of a type: its own layer, and those of its ancestors, the nearest first. -/
structure Table where
  own : Layer
  ancestors : List Layer

namespace Table

/-- The root class, which implements every method itself. -/
def root : Table where
  own := { name := "Object", slots := fun method => ⟨Script.base method, "Object"⟩ }
  ancestors := []

/-- The table of a new type before anything is substituted in it. -/
def derive (parent : Table) (name : String) : Table where
  own := { name, slots := parent.own.slots }
  ancestors := parent.own :: parent.ancestors

/-- The table with its type's own implementation of a method. -/
def substitute (table : Table) (method : Method) (implementation : Implementation method) : Table :=
  { table with
    own.slots := table.own.slots.replace method ⟨implementation, table.own.name⟩ }

def name (table : Table) : String :=
  table.own.name

def slot (table : Table) : Slots :=
  table.own.slots

/-- The table that this one was derived from. -/
def parent? (table : Table) : Option Table :=
  match table.ancestors with
  | [] => none
  | own :: ancestors => some { own, ancestors }

/-- The names of the type and its ancestors, the nearest first. -/
def lineage (table : Table) : List String :=
  table.name :: table.ancestors.map Layer.name

/-- Whether the type or one of its ancestors bears the name. -/
def conformsTo (table : Table) (name : String) : Bool :=
  table.lineage.contains name

/-- The name of the type whose implementation a method has. -/
def implementor (table : Table) (method : Method) : String :=
  (table.slot method).owner

/-- The methods whose implementor bears the type's own name, in slot order. Types are told apart by
name only, so slots inherited from an ancestor of the same name are among them. -/
def overrides (table : Table) : List Method :=
  Method.all.filter fun method => table.implementor method = table.name

/-- What is logged when the table comes into use. -/
def registration (table : Table) : Log.Event :=
  .tableRegistered table.name (table.parent?.map name) table.overrides

/-- The type's name, and its parent's where it has one. -/
def heading (table : Table) : String :=
  match table.parent? with
  | none => "(" ++ table.name ++ ")"
  | some parent => "(" ++ table.name ++ " : " ++ parent.name ++ ")"

/-- The implementors of all methods, each with its method. -/
def entries (table : Table) : List String :=
  Method.all.map fun method => quoted method.name ++ ": " ++ quoted (table.implementor method)

/-- The table in one line. -/
def text (table : Table) : String :=
  "\x7b" ++ ", ".intercalate table.entries ++ "\x7d " ++ table.heading

/-- The table with one line for each method. -/
def tallText (table : Table) : String :=
  "\x7b\n" ++ String.join (table.entries.map fun entry => "    " ++ entry ++ ",\n") ++ "\x7d " ++
    table.heading

/-- How the methods of an instance answer when at most so many calls may be nested. Each is run with
the same table, so that the calls it makes are looked up here again and not where it was written. -/
def calls (table : Table) : Nat → Calls
  | 0 => fun _ _ _ => none
  | depth + 1 => fun method argument =>
      ((table.slot method).implementation argument).run (table.calls depth)

end Table

/-- An instance of a type. -/
structure Object where
  table : Table

namespace Object

/-- A plain instance of the root class. -/
def root : Object :=
  ⟨.root⟩

def typeName (object : Object) : String :=
  object.table.name

def text (object : Object) : String :=
  recordText "Object" [("type", quoted object.typeName)]

/-- The object that a printing method of this one returned. -/
def returned (object : Object) : Receiver → Object
  | .self => object
  | .root => root

end Object
end RootObject
