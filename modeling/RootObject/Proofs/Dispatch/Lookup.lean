import RootObject.Dispatch.Overrides
import RootObject.Session

/-!
Dispatch tables against method look-up along the chain of ancestors. A chain says what each type
declares; look-up goes from a type to its ancestors until one of them substitutes the method
(`Chain.lookup`). The table that is built for a chain by copying and substituting holds in each slot what
look-up finds there (`slot_ofChain`), and an instance answers every call, those that its implementations
make included, by look-up from its own type (`calls_ofChain`).
-/

namespace RootObject

/-! ### Chains -/

/-- What a type puts into one slot. -/
structure Substitution where
  method : Method
  implementation : Implementation method

/-- The implementation that the substitution gives to a method, if it is one of that method. -/
def Substitution.of? (substitution : Substitution) (method : Method) :
    Option (Implementation method) :=
  if same : substitution.method = method then some (same ▸ substitution.implementation) else none

theorem Substitution.of?_self (substitution : Substitution) :
    substitution.of? substitution.method = some substitution.implementation := by
  rw [of?, dif_pos rfl]

theorem Substitution.of?_other {substitution : Substitution} {method : Method}
    (different : substitution.method ≠ method) : substitution.of? method = none := by
  rw [of?, dif_neg different]

/-- A type as it is declared: its name, and what it substitutes, in order. -/
structure Declaration where
  name : String
  substitutions : List Substitution

/-- The implementation that the type itself has for a method: the last of its substitutions counts. -/
def Declaration.own? (declaration : Declaration) (method : Method) : Option (Implementation method) :=
  declaration.substitutions.reverse.findSome? fun substitution => substitution.of? method

/-- Later substitutions take precedence over the first. -/
theorem Declaration.own?_cons (name : String) (substitution : Substitution)
    (rest : List Substitution) (method : Method) :
    own? ⟨name, substitution :: rest⟩ method =
      (own? ⟨name, rest⟩ method).or (substitution.of? method) := by
  unfold own?
  rw [List.reverse_cons, List.findSome?_append, List.findSome?_singleton]

/-- A type and its ancestors below the root class, the nearest first. -/
abbrev Chain : Type :=
  List Declaration

namespace Chain

/-- The implementation of the nearest type that has one of its own, with that type's name; the root
class's own where no type has. -/
def lookup : Chain → Slots
  | [], method => ⟨Script.base method, "Object"⟩
  | declaration :: ancestors, method =>
      match declaration.own? method with
      | some implementation => ⟨implementation, declaration.name⟩
      | none => lookup ancestors method

/-- How the methods of an instance answer when each call is looked up along the chain of its type. -/
def calls (chain : Chain) : Nat → Calls
  | 0 => fun _ _ _ => none
  | depth + 1 => fun method argument =>
      ((chain.lookup method).implementation argument).run (chain.calls depth)

/-- The supplier of a method is a type of the chain, or the root class. -/
theorem owner_lookup_mem (chain : Chain) (method : Method) :
    (chain.lookup method).owner ∈ chain.map Declaration.name ++ ["Object"] := by
  induction chain with
  | nil => exact List.mem_singleton.mpr rfl
  | cons declaration ancestors ih =>
      unfold lookup
      cases declaration.own? method with
      | some implementation => exact List.mem_cons_self
      | none => exact List.mem_cons_of_mem _ ih

end Chain

/-! ### Substituting in a table -/

theorem Slots.replace_comm (slots : Slots) {first second : Method} (different : first ≠ second)
    (slot : Slot first) (slot' : Slot second) :
    (slots.replace first slot).replace second slot' =
      (slots.replace second slot').replace first slot := by
  funext other
  by_cases isFirst : first = other
  · subst isFirst
    rw [replace_same, replace_other _ _ different.symm, replace_same]
  · by_cases isSecond : second = other
    · subst isSecond
      rw [replace_same, replace_other _ _ isFirst, replace_same]
    · rw [replace_other _ _ isSecond, replace_other _ _ isFirst, replace_other _ _ isFirst,
        replace_other _ _ isSecond]

namespace Table

variable (table : Table)

@[simp]
theorem name_substitute (method : Method) (implementation : Implementation method) :
    (table.substitute method implementation).name = table.name := rfl

theorem slot_substitute_same (method : Method) (implementation : Implementation method) :
    (table.substitute method implementation).slot method = ⟨implementation, table.name⟩ :=
  table.slot.replace_same method _

theorem slot_substitute_other {method other : Method} (implementation : Implementation method)
    (different : method ≠ other) :
    (table.substitute method implementation).slot other = table.slot other :=
  table.slot.replace_other _ different

theorem parent?_substitute (method : Method) (implementation : Implementation method) :
    (table.substitute method implementation).parent? = table.parent? := rfl

/-- Substitutions in different slots do not depend on their order. -/
theorem substitute_comm {first second : Method} (different : first ≠ second)
    (implementation : Implementation first) (implementation' : Implementation second) :
    (table.substitute first implementation).substitute second implementation' =
      (table.substitute second implementation').substitute first implementation := by
  have slots := table.own.slots.replace_comm different ⟨implementation, table.own.name⟩
    ⟨implementation', table.own.name⟩
  unfold substitute
  rw [slots]

/-- The table after some substitutions, one after another. -/
def substituteAll : List Substitution → Table :=
  List.foldl (fun table substitution =>
    table.substitute substitution.method substitution.implementation) table

theorem name_substituteAll (substitutions : List Substitution) :
    (table.substituteAll substitutions).name = table.name := by
  induction substitutions generalizing table with
  | nil => rfl
  | cons substitution rest ih => exact ih (table.substitute _ substitution.implementation)

theorem ancestors_substituteAll (substitutions : List Substitution) :
    (table.substituteAll substitutions).ancestors = table.ancestors := by
  induction substitutions generalizing table with
  | nil => rfl
  | cons substitution rest ih => exact ih (table.substitute _ substitution.implementation)

/-- A slot holds what was put there last, under the name of the type, or what it held before. -/
theorem slot_substituteAll (substitutions : List Substitution) (method : Method) :
    (table.substituteAll substitutions).slot method =
      match Declaration.own? ⟨table.name, substitutions⟩ method with
      | some implementation => ⟨implementation, table.name⟩
      | none => table.slot method := by
  induction substitutions generalizing table with
  | nil => rfl
  | cons substitution rest ih =>
      have later := ih (table.substitute substitution.method substitution.implementation)
      rw [name_substitute] at later
      rw [Declaration.own?_cons]
      change Table.slot (substituteAll _ rest) method = _
      rw [later]
      cases Declaration.own? ⟨table.name, rest⟩ method with
      | some implementation => rfl
      | none =>
          by_cases same : substitution.method = method
          · subst same
            rw [Substitution.of?_self]
            exact table.slot_substitute_same substitution.method substitution.implementation
          · rw [Substitution.of?_other same]
            exact table.slot_substitute_other substitution.implementation same

/-! ### The table of a chain -/

/-- The table of a type, derived from its parent's, with the type's substitutions made. -/
def ofChain : Chain → Table
  | [] => root
  | declaration :: ancestors =>
      ((ofChain ancestors).derive declaration.name).substituteAll declaration.substitutions

theorem name_ofChain (declaration : Declaration) (ancestors : Chain) :
    (ofChain (declaration :: ancestors)).name = declaration.name :=
  name_substituteAll _ _

/-- A type conforms to its own name, to those of its ancestors, and to the root class's. -/
theorem lineage_ofChain (chain : Chain) :
    (ofChain chain).lineage = chain.map Declaration.name ++ ["Object"] := by
  induction chain with
  | nil => rfl
  | cons declaration ancestors ih =>
      rw [lineage, name_ofChain, ofChain, ancestors_substituteAll, List.map_cons, List.cons_append,
        ← ih]
      rfl

/-- Each slot holds what look-up along the chain finds, under the name of the type it is found at. -/
theorem slot_ofChain (chain : Chain) (method : Method) :
    (ofChain chain).slot method = chain.lookup method := by
  induction chain with
  | nil => rfl
  | cons declaration ancestors ih =>
      rw [ofChain, slot_substituteAll, Chain.lookup, ← ih]
      rfl

/-- Calls are answered as by look-up along the chain at each call, however deep they are nested. -/
theorem calls_ofChain (chain : Chain) (depth : Nat) :
    (ofChain chain).calls depth = chain.calls depth := by
  induction depth with
  | zero => rfl
  | succ depth ih =>
      funext method argument
      unfold calls Chain.calls
      rw [slot_ofChain, ih]

theorem conformsTo_implementor (chain : Chain) (method : Method) :
    (ofChain chain).conformsTo ((ofChain chain).implementor method) = true := by
  rw [conformsTo, lineage_ofChain, List.contains_iff_mem, implementor, slot_ofChain]
  exact chain.owner_lookup_mem method

/-- A table built by deriving and substituting is method look-up along the chain of ancestors, made
once. Its slots hold what look-up finds, and its implementors are the types where it is found, to all of
which the type conforms. A call on an instance runs that implementation for the same instance: what it
returns is told of that instance, and the calls that it makes are looked up from the instance's type
again. Substitutions in different slots commute and leave the other slots, the name and the parent. -/
theorem ofChain_eq_lookup (chain : Chain) :
    (∀ method, (ofChain chain).slot method = chain.lookup method ∧
      (ofChain chain).implementor method = (chain.lookup method).owner ∧
      (ofChain chain).conformsTo ((ofChain chain).implementor method) = true) ∧
    (∀ depth method argument console,
      Step.perform (depth + 1) (.call ⟨ofChain chain⟩ .dispatched method argument) console =
        (((chain.lookup method).implementation argument).run (chain.calls depth) console).map
          fun outcome => (outcome.map (Step.Reply.of ⟨ofChain chain⟩ method)).mapError .fault) ∧
    ∀ table : Table, ∀ first implementation,
      (∀ other, first ≠ other →
        (table.substitute first implementation).slot other = table.slot other ∧
        ∀ implementation', (table.substitute first implementation).substitute other implementation' =
          (table.substitute other implementation').substitute first implementation) ∧
      (table.substitute first implementation).name = table.name ∧
      (table.substitute first implementation).parent? = table.parent? := by
  refine ⟨fun method => ?slots, fun depth method argument console => ?calls, ?substitutions⟩
  case slots =>
      have found := slot_ofChain chain method
      exact ⟨found, congrArg Slot.owner found, conformsTo_implementor chain method⟩
  case calls =>
      have answered : (ofChain chain).calls (depth + 1) method argument console =
          ((chain.lookup method).implementation argument).run (chain.calls depth) console := by
        rw [calls_ofChain, Chain.calls]
      rw [Step.perform, Object.call, answered]
  case substitutions =>
      intro table first implementation
      refine ⟨fun other different => ⟨?_, fun implementation' => ?_⟩, rfl, ?_⟩
      · exact table.slot_substitute_other implementation different
      · exact table.substitute_comm different implementation implementation'
      · exact table.parent?_substitute first implementation

/-- A type that substitutes one method twice, and whose calls end in what two of its ancestors have. -/
theorem ofChain_eq_lookup_counting :
    let chain : Chain := [
      ⟨"Third", [⟨.print, Overrides.star⟩, ⟨.inputBool, Overrides.never⟩, ⟨.print, Overrides.count⟩]⟩,
      ⟨"Second", [⟨.printInt32, Overrides.even⟩]⟩,
      ⟨"First", [⟨.print, Overrides.upper⟩, ⟨.printBool, Overrides.flip⟩, ⟨.printInt32, Overrides.negate⟩]⟩]
    let console : Console := ⟨{}, Stream.ofSource [] 1, .reliable⟩
    Method.all.map (ofChain chain).implementor =
        ["Third", "First", "Second", "Object", "Third", "Object"] ∧
      (Step.perform 3 (.call ⟨ofChain chain⟩ .dispatched .print "ab") console).map
          (fun outcome => outcome.state.sink.accepted) = some (Utf8.encode "false") ∧
      Method.print ≠ .inputBool ∧
      ((ofChain chain).substitute .print Overrides.silent).slot .inputBool =
        (ofChain chain).slot .inputBool := by
  intro chain console
  obtain ⟨slots, calls, substitutions⟩ := ofChain_eq_lookup chain
  have supplied : Method.all.map (ofChain chain).implementor =
      Method.all.map fun method => (chain.lookup method).owner :=
    List.map_congr_left fun method _ => (slots method).2.1
  refine ⟨supplied.trans ?_, ?_, by decide, ?_⟩
  · decide +kernel
  · rw [calls 2 .print "ab" console]
    decide +kernel
  · exact ((substitutions (ofChain chain) .print Overrides.silent).1 .inputBool (by decide)).1

end Table
end RootObject
