import SupplyGraph.Fault
import SupplyGraph.Vocabulary.Lookup

/-!
Resolving the names and labels of an entry. A name that is not known is a fault of the field that
holds it, reported without the blanks around it.
-/

namespace SupplyGraph

namespace Vocabulary

/-- The entity type that a name means. -/
def entity (vocabulary : Vocabulary) (field : FieldPath) (name : String)
    : Except Fault EntityType :=
  match vocabulary.entityType? name with
  | some entityType => .ok entityType
  | none => .error ⟨field, .unknownEntityType name⟩

/-- The entity type that a name means, blanks around the name dropped. No name is an empty name. -/
def reference (vocabulary : Vocabulary) (field : FieldPath) (name : Option String)
    : Except Fault EntityType :=
  vocabulary.entity field (Text.trim (name.getD ""))

/-- The commodity type that a name means. There must be a name that is not blank. -/
def commodity (vocabulary : Vocabulary) (field : FieldPath) (name : Option String)
    : Except Fault CommodityType :=
  let name := Text.trim (name.getD "")
  if name.isEmpty then .error ⟨field, .missingCommodityType⟩
  else
    match vocabulary.commodityType? name with
    | some commodityType => .ok commodityType
    | none => .error ⟨field, .unknownCommodityType name⟩

end Vocabulary

/-- The relationship with a label. -/
def Relationship.ofLabel (field : FieldPath) (label : String) : Except Fault Relationship :=
  match Labelled.parse? label with
  | some relationship => .ok relationship
  | none => .error ⟨field, .unknownRelationship (Text.trim label)⟩

/-- The kind of template with a label. -/
def TemplateKind.ofLabel (field : FieldPath) (label : String) : Except Fault TemplateKind :=
  match Labelled.parse? label with
  | some kind => .ok kind
  | none => .error ⟨field, .unknownTemplateType (Text.trim label)⟩

/-- A check of a value that may be missing. -/
def checkOptional {α β : Type} (check : α → Except Fault β) : Option α → Except Fault (Option β)
  | none => .ok none
  | some value => (check value).map some

end SupplyGraph
