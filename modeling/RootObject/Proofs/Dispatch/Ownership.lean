import RootObject.Proofs.Dispatch.Lookup

/-!
Which methods a table reports as its type's own. Slots bear the names of the types that filled them, and
a table reports those that bear the name of its own type. What the type substitutes is reported always.
What it inherits is reported where the type that supplies it is a namesake, so the report is what the
type substitutes if and only if it inherits nothing from a namesake (`overrides_derive`).
-/

namespace RootObject

theorem Method.mem_all (method : Method) : method ∈ all := by
  cases method <;> decide

theorem Method.nodup_all : all.Nodup := by
  decide

/-! ### What a type substitutes -/

namespace Declaration

/-- The type has an implementation of its own for the method. -/
def Substitutes (declaration : Declaration) (method : Method) : Prop :=
  ∃ substitution ∈ declaration.substitutions, substitution.method = method

instance (declaration : Declaration) (method : Method) : Decidable (declaration.Substitutes method) :=
  inferInstanceAs (Decidable (∃ substitution ∈ declaration.substitutions, substitution.method = method))

/-- The methods that the type substitutes, in slot order. -/
def substituted (declaration : Declaration) : List Method :=
  Method.all.filter fun method => declaration.Substitutes method

theorem own?_eq_none_iff {declaration : Declaration} {method : Method} :
    declaration.own? method = none ↔ ¬ declaration.Substitutes method := by
  unfold own? Substitutes
  rw [List.findSome?_eq_none_iff]
  constructor
  · rintro none ⟨substitution, among, rfl⟩
    have absent := none substitution (List.mem_reverse.mpr among)
    rw [Substitution.of?_self] at absent
    cases absent
  · intro others substitution among
    exact Substitution.of?_other fun same =>
      others ⟨substitution, List.mem_reverse.mp among, same⟩

end Declaration

namespace Table

/-! ### Who supplies a method -/

/-- The table comes from the root class's by deriving and substituting. -/
inductive Built : Table → Prop where
  | root : Built root
  | derive {parent : Table} (built : parent.Built) (name : String) : Built (parent.derive name)
  | substitute {table : Table} (built : table.Built) (method : Method)
      (implementation : Implementation method) : Built (table.substitute method implementation)

/-- Every method is supplied by the type or by one of its ancestors. -/
theorem Built.implementor_mem_lineage {table : Table} (built : table.Built) (method : Method) :
    table.implementor method ∈ table.lineage := by
  induction built with
  | root => exact List.mem_singleton.mpr rfl
  | derive built name ih => exact List.mem_cons_of_mem name ih
  | @substitute table built replaced implementation ih =>
      by_cases same : replaced = method
      · subst same
        rw [implementor, slot_substitute_same]
        exact List.mem_cons_self
      · rw [implementor, slot_substitute_other _ _ same]
        exact ih

section Derived

variable {parent : Table} {name : String} {substitutions : List Substitution} {method : Method}

theorem name_derive : (parent.derive name).name = name := rfl

/-- The type supplies what it substitutes, and whoever supplies the rest to its parent does to it. -/
theorem implementor_derive :
    ((parent.derive name).substituteAll substitutions).implementor method =
      if Declaration.Substitutes ⟨name, substitutions⟩ method then name
      else parent.implementor method := by
  rw [implementor, slot_substituteAll, name_derive]
  by_cases substitutes : Declaration.Substitutes ⟨name, substitutions⟩ method
  · cases own : Declaration.own? ⟨name, substitutions⟩ method with
    | none => exact absurd substitutes (Declaration.own?_eq_none_iff.mp own)
    | some implementation => rw [if_pos substitutes]
  · rw [Declaration.own?_eq_none_iff.mpr substitutes, if_neg substitutes]
    rfl

/-! ### What is reported -/

theorem mem_overrides_derive :
    method ∈ ((parent.derive name).substituteAll substitutions).overrides ↔
      Declaration.Substitutes ⟨name, substitutions⟩ method ∨ parent.implementor method = name := by
  rw [overrides, List.mem_filter, implementor_derive, name_substituteAll, decide_eq_true_iff]
  by_cases substitutes : Declaration.Substitutes ⟨name, substitutions⟩ method
  · rw [if_pos substitutes]
    exact iff_of_true ⟨method.mem_all, rfl⟩ (.inl substitutes)
  · rw [if_neg substitutes, or_iff_right substitutes]
    exact and_iff_right method.mem_all

theorem overrides_eq_substituted_iff :
    ((parent.derive name).substituteAll substitutions).overrides =
        Declaration.substituted ⟨name, substitutions⟩ ↔
      ∀ method, ¬ Declaration.Substitutes ⟨name, substitutions⟩ method →
        parent.implementor method ≠ name := by
  constructor
  · intro same method inherited namesake
    have reported : method ∈ ((parent.derive name).substituteAll substitutions).overrides :=
      mem_overrides_derive.mpr (.inr namesake)
    rw [same, Declaration.substituted, List.mem_filter, decide_eq_true_iff] at reported
    exact inherited reported.2
  · intro strangers
    refine List.filter_congr fun method _ => ?_
    rw [implementor_derive, name_substituteAll, decide_eq_decide]
    by_cases substitutes : Declaration.Substitutes ⟨name, substitutions⟩ method
    · rw [if_pos substitutes]
      exact iff_of_true rfl substitutes
    · rw [if_neg substitutes]
      exact iff_of_false (strangers method substitutes) substitutes

end Derived

/-- Of a type that is derived from any other, whatever their names: the methods reported, in slot order
and each once, are those that the type substitutes and those that a namesake supplies to its parent. So
just what the type substitutes is reported if and only if none of the types that supply the rest bears
its name, as when no ancestor does. The same methods are told when the table comes into use. -/
theorem overrides_derive (parent : Table) (name : String) (substitutions : List Substitution) :
    let table := (parent.derive name).substituteAll substitutions
    let declaration : Declaration := ⟨name, substitutions⟩
    (table.overrides.Sublist Method.all ∧ table.overrides.Nodup ∧
      ∀ method, method ∈ table.overrides ↔
        declaration.Substitutes method ∨ parent.implementor method = name) ∧
    (table.overrides = declaration.substituted ↔
      ∀ method, ¬ declaration.Substitutes method → parent.implementor method ≠ name) ∧
    (parent.Built → name ∉ parent.lineage → table.overrides = declaration.substituted) ∧
    table.registration = .tableRegistered name (some parent.name) table.overrides := by
  intro table declaration
  refine ⟨⟨List.filter_sublist, Method.nodup_all.filter _, fun method => mem_overrides_derive⟩,
    overrides_eq_substituted_iff, fun built unique => ?_, ?_⟩
  · refine overrides_eq_substituted_iff.mpr fun method _ namesake => unique ?_
    rw [← namesake]
    exact built.implementor_mem_lineage method
  · rw [registration, parent?, ancestors_substituteAll, name_substituteAll]
    rfl

/-- A type that substitutes one method twice, and another that its parent substitutes too. -/
theorem overrides_derive_unique :
    let parent := (root.derive "First").substitute .print Overrides.upper
    parent.Built ∧ "Second" ∉ parent.lineage ∧
      ((parent.derive "Second").substituteAll
        [⟨.inputBool, Overrides.never⟩, ⟨.print, Overrides.star⟩,
          ⟨.inputBool, Overrides.not⟩]).overrides = [.print, .inputBool] := by
  intro parent
  have built : parent.Built := (Built.root.derive "First").substitute .print Overrides.upper
  have unique : "Second" ∉ parent.lineage := by
    decide
  exact ⟨built, unique, ((overrides_derive parent "Second" _).2.2.1 built unique).trans (by decide)⟩

/-- A type does not substitute all that it reports: it reports what a parent with the same name has
substituted. -/
theorem overrides_derive_namesake :
    let parent := (root.derive "A").substitute .print Overrides.upper
    let declaration : Declaration := ⟨"A", [⟨.inputBool, Overrides.never⟩]⟩
    ¬ ∀ method, method ∈ ((parent.derive "A").substituteAll declaration.substitutions).overrides ↔
      declaration.Substitutes method := by
  intro parent declaration reports
  have reported : .print ∈ ((parent.derive "A").substituteAll declaration.substitutions).overrides :=
    mem_overrides_derive.mpr (.inr rfl)
  exact absurd ((reports .print).mp reported) (by decide)

end Table
end RootObject
