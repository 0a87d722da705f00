import SupplyGraph.Vocabulary.Types

/-!
Why an entry is rejected. A fault has a cause and the path of the field that is to blame; a
rejection also says which entry of the document it was found in. All wording is in this module.
-/

namespace SupplyGraph

/-- One step on the way from an entry to a field. -/
inductive Step where
  | field (name : String)
  | index (position : Nat)
deriving DecidableEq, Repr

/-- The way from an entry to one of its fields. -/
abbrev FieldPath := List Step

namespace FieldPath

/-- The path of a field inside the value at a path. -/
def field (path : FieldPath) (name : String) : FieldPath := path ++ [.field name]

/-- The path of an item of the list at a path. -/
def index (path : FieldPath) (position : Nat) : FieldPath := path ++ [.index position]

/-- A step behind another one: a name after a dot, a position in brackets. -/
def renderStep : Step → String
  | .field name => "." ++ name
  | .index position => "[" ++ toString position ++ "]"

/-- The text of a path: `commoditySold[0].commodityType`. -/
def render : FieldPath → String
  | [] => ""
  | .field name :: rest => rest.foldl (fun text step => text ++ renderStep step) name
  | steps => steps.foldl (fun text step => text ++ renderStep step) ""

end FieldPath

/-- What the properties reported by the discovering side lack. -/
inductive ProbeGap where
  | noDefinitions
  | unnamedDefinition
deriving DecidableEq, Repr

def ProbeGap.message : ProbeGap → String
  | .noDefinitions => "no definitions"
  | .unnamedDefinition => "definition without a name"

/-- What the handling of a property lacks. -/
inductive HandlerGap where
  | noTargetEntity
  | noHandler
  | noMethodName
  | noEntityType
deriving DecidableEq, Repr

def HandlerGap.message : HandlerGap → String
  | .noTargetEntity => "no target entity"
  | .noHandler => "no property handler"
  | .noMethodName => "no method name"
  | .noEntityType => "no entity type"

/-- Everything that can be wrong with an entry. -/
inductive Cause where
  | unknownEntityType (name : String)
  | unknownCommodityType (name : String)
  | unknownRelationship (label : String)
  | unknownTemplateType (label : String)
  | missingSoldCommodities
  | missingCommodityType
  | missingProvider
  | missingRelationship (provider : EntityType)
  | invalidCardinality (least most : Int32)
  | missingCommodityDefs
  | missingProbeProperties (gap : ProbeGap)
  | missingEntityProperties
  | incompleteHandler (gap : HandlerGap)
  | linkOutOfScope (node buyer seller : EntityType)
  | conflictingLabels (provider : EntityType) (existing declared : Relationship)
  | conflictingNodes (node provider : EntityType) (existing declared : Relationship)
deriving DecidableEq, Repr

namespace Cause

/-- The stable name of the kind of cause. -/
def name : Cause → String
  | unknownEntityType _ => "UnknownEntityType"
  | unknownCommodityType _ => "UnknownCommodityType"
  | unknownRelationship _ => "UnknownRelationship"
  | unknownTemplateType _ => "UnknownTemplateType"
  | missingSoldCommodities => "MissingSoldCommodities"
  | missingCommodityType => "MissingCommodityType"
  | missingProvider => "MissingProvider"
  | missingRelationship _ => "MissingRelationship"
  | invalidCardinality _ _ => "InvalidCardinality"
  | missingCommodityDefs => "MissingCommodityDefs"
  | missingProbeProperties _ => "MissingProbeProperties"
  | missingEntityProperties => "MissingExternalPropertyDefs"
  | incompleteHandler _ => "IncompletePropertyHandler"
  | linkOutOfScope _ _ _ => "InvalidExternalLinkScope"
  | conflictingLabels _ _ _ => "ConflictingHostRelationship"
  | conflictingNodes _ _ _ _ => "ConflictingNodeDefinition"

/-- A name between grave accents. -/
def quoted (text : String) : String := "\x60" ++ text ++ "\x60"

/-- Two labels that one provider was given. -/
def bothLabels (provider : EntityType) (existing declared : Relationship) : String :=
  "provider " ++ Labelled.label provider ++ " declared as both " ++ Labelled.label existing
    ++ " and " ++ Labelled.label declared

/-- The cause in words. -/
def message : Cause → String
  | unknownEntityType name => "unknown entity type " ++ quoted name
  | unknownCommodityType name => "unknown commodity type " ++ quoted name
  | unknownRelationship label => "unknown relationship " ++ quoted label
  | unknownTemplateType label => "unknown template type " ++ quoted label
  | missingSoldCommodities => "no sold commodity declared"
  | missingCommodityType => "commodity entry has no commodity type"
  | missingProvider => "bought commodity group has no provider entity type"
  | missingRelationship provider =>
      "bought commodity group for " ++ Labelled.label provider ++ " has no relationship"
  | invalidCardinality least most =>
      "invalid provider cardinality " ++ toString least.toInt ++ ".." ++ toString most.toInt
  | missingCommodityDefs => "external link has no commodity definitions"
  | missingProbeProperties gap =>
      "external link has no probe property definitions: " ++ gap.message
  | missingEntityProperties => "external link has no external property definitions"
  | incompleteHandler gap => "incomplete property handler: " ++ gap.message
  | linkOutOfScope node buyer seller =>
      "external link " ++ Labelled.label buyer ++ " -> " ++ Labelled.label seller
        ++ " does not involve " ++ Labelled.label node
  | conflictingLabels provider existing declared => bothLabels provider existing declared
  | conflictingNodes node provider existing declared =>
      "merging node " ++ Labelled.label node ++ ": " ++ bothLabels provider existing declared

end Cause

/-- A cause, and the field of the entry that it is found at. -/
structure Fault where
  field : FieldPath
  cause : Cause
deriving DecidableEq, Repr

/-- A fault in one entry of a document. The template is the class of the entry as written. -/
structure Rejection where
  entry : Nat
  template : String
  fault : Fault
deriving DecidableEq, Repr

namespace Rejection

def message (rejection : Rejection) : String :=
  "template entry #" ++ toString rejection.entry ++ " (" ++ rejection.template ++ "), field "
    ++ Cause.quoted rejection.fault.field.render ++ ": " ++ rejection.fault.cause.message

end Rejection

/-- Says in which entry a fault was found. -/
def Fault.within (fault : Fault) (entry : Nat) (template : String) : Rejection :=
  ⟨entry, template, fault⟩

end SupplyGraph
