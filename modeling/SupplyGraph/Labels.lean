import SupplyGraph.Fault
import SupplyGraph.Sorted.Map

/-!
The relationship labels of providers. A provider has one label; a second one that differs is a
conflict.
-/

namespace SupplyGraph

/-- The label of every provider that has one. -/
abbrev Labels := SortedMap EntityType Relationship

namespace Labels

/-- The fault of declaring a label for a provider that has another one. -/
def conflict? (labels : Labels) (provider : EntityType) (declared : Relationship)
    : Option Cause :=
  match labels.find? provider with
  | none => none
  | some existing =>
      if existing = declared then none
      else some (.conflictingLabels provider existing declared)

/-- Declares a label for a provider, which a field does. -/
def declare (labels : Labels) (field : FieldPath) (provider : EntityType)
    (declared : Relationship)
    : Except Fault Labels :=
  match labels.conflict? provider declared with
  | some cause => .error ⟨field, cause⟩
  | none => .ok (labels.insert provider declared)

/-- The least provider for which both maps have a label and the labels differ, with both. -/
def firstDifference? (existing incoming : Labels)
    : Option (EntityType × Relationship × Relationship) :=
  incoming.entries.findSome? (fun (provider, declared) =>
    match existing.find? provider with
    | none => none
    | some current => if current = declared then none else some (provider, current, declared))

end Labels

end SupplyGraph
