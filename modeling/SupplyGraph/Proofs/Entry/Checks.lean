import SupplyGraph.Proofs.Entry.Resolution

/-!
The checks that an entry has to pass, in one list. A check looks only at what is written and at
what the vocabulary makes of it; where it needs a name that another check has found unknown, there
is nothing that it could find wrong.
-/

namespace SupplyGraph

/-- Something that an entry must fulfil, the field it is looked for at, and what is wrong there if
it is not fulfilled. -/
structure Check where
  field : FieldPath
  failure : Option Cause
deriving DecidableEq, Repr

namespace Check

/-- What a failed check reports. -/
def fault? (check : Check) : Option Fault :=
  check.failure.map (fun cause => ⟨check.field, cause⟩)

/-- A field and a cause are what the first of the checks reports that fails. -/
def FirstFailure (checks : List Check) (field : FieldPath) (cause : Cause) : Prop :=
  ∃ before check after,
    checks = before ++ check :: after
    ∧ (∀ earlier ∈ before, earlier.failure = none)
    ∧ check.failure = some cause
    ∧ check.field = field

/-- A condition that must hold. -/
def require (field : FieldPath) (condition : Prop) [Decidable condition] (cause : Cause) : Check :=
  ⟨field, if condition then none else some cause⟩

/-- The checks of the items of a list, each made at its position. -/
def inTurn {α : Type} (checks : Nat → α → List Check) (items : List α) : List Check :=
  items.zipIdx.flatMap (fun (item, position) => checks position item)

/-- The checks of a list that must not be empty, and of its items. -/
def nonEmpty {α : Type} (field : FieldPath) (missing : Cause) (checks : Nat → α → List Check)
    (items : List α)
    : List Check :=
  require field (items ≠ []) missing :: inTurn checks items

-----------------------------------------------------------------------------------------
-- Names and labels
-----------------------------------------------------------------------------------------

/-- An entity type is named that is known. -/
def knownEntity (vocabulary : Vocabulary) (field : FieldPath) (name : Option String) : Check :=
  require field (vocabulary.entityNamed? name).isSome
    (.unknownEntityType (Text.trim (name.getD "")))

/-- A commodity type is named, and it is known. -/
def knownCommodity (vocabulary : Vocabulary) (field : FieldPath) (name : Option String)
    : List Check :=
  [ require field (nonBlank? name).isSome .missingCommodityType,
    require field (vocabulary.commodityType? (Text.trim (name.getD ""))).isSome
      (.unknownCommodityType (Text.trim (name.getD "")))]

/-- A label that is written is one of the labels of a type. -/
def knownLabel (α : Type) [Labelled α] (field : FieldPath) (unknown : String → Cause)
    (label : Option String)
    : Check :=
  require field (readOptional? (Labelled.parse? : String → Option α) label).isSome
    (unknown (Text.trim (label.getD "")))

/-- The label that a provider is given differs from the first of the earlier ones that does. -/
def contradiction? (earlier : List (EntityType × Relationship))
    (stated : EntityType × Relationship)
    : Option Cause :=
  (earlier.find? (fun other => other.1 = stated.1 ∧ other.2 ≠ stated.2)).map (fun other =>
    .conflictingLabels stated.1 other.2 stated.2)

end Check

namespace Template

open Check

-----------------------------------------------------------------------------------------
-- Bought groups
-----------------------------------------------------------------------------------------

namespace ProviderRef

/-- The provider that a reference names, if the name is known. -/
def provider? (vocabulary : Vocabulary) (reference : ProviderRef) : Option EntityType :=
  (nonBlank? reference.templateClass).bind vocabulary.entityType?

/-- The checks of the provider that a reference at a path names. -/
def classChecks (vocabulary : Vocabulary) (path : FieldPath) (reference : ProviderRef)
    : List Check :=
  let field := path.field "templateClass"
  [ require field (nonBlank? reference.templateClass).isSome .missingProvider,
    knownEntity vocabulary field reference.templateClass]

/-- The checks of the label that a reference at a path gives to a provider. -/
def labelChecks (path : FieldPath) (provider : Option EntityType) (reference : ProviderRef)
    : List Check :=
  let field := path.field "providerType"
  [ ⟨field,
      if reference.providerType.isSome then none else provider.map .missingRelationship⟩,
    knownLabel Relationship field .unknownRelationship reference.providerType]

/-- The check that the bounds of a reference at a path are not the wrong way round. -/
def boundsCheck (path : FieldPath) (reference : ProviderRef) : Check :=
  ⟨path.field "cardinalityMin", do
    let least ← reference.cardinalityMin
    let most ← reference.cardinalityMax
    if most < least then some (.invalidCardinality least most) else none⟩

end ProviderRef

namespace BoughtGroup

/-- The label that a bought group gives to its provider. -/
def stated? (vocabulary : Vocabulary) (group : BoughtGroup)
    : Option (EntityType × Relationship) := do
  let reference ← group.key
  let provider ← reference.provider? vocabulary
  let relationship ← reference.providerType.bind Labelled.parse?
  return (provider, relationship)

def path (position : Nat) : FieldPath := FieldPath.index [.field "commodityBought"] position

/-- The checks of the bought group at a position, taken on its own. -/
def checks (vocabulary : Vocabulary) (position : Nat) (group : BoughtGroup) : List Check :=
  let key := (path position).field "key"
  let reference := group.key.getD {}
  [require key group.key.isSome .missingProvider]
    ++ reference.classChecks vocabulary key
    ++ reference.labelChecks key (reference.provider? vocabulary)
    ++ [reference.boundsCheck key]
    ++ inTurn
        (fun index commodity =>
          knownCommodity vocabulary
            ((((path position).field "value").index index).field "commodityType")
            commodity.commodityType)
        group.value

/-- The check that the bought group at a position gives its provider the label that all groups
before it do. -/
def agreement (vocabulary : Vocabulary) (earlier : List BoughtGroup) (position : Nat)
    (group : BoughtGroup)
    : Check :=
  ⟨((path position).field "key").field "providerType",
    (group.stated? vocabulary).bind (contradiction? (earlier.filterMap (stated? vocabulary)))⟩

end BoughtGroup

-----------------------------------------------------------------------------------------
-- Links
-----------------------------------------------------------------------------------------

/-- The checks of a handler inside as many others, of which the outermost one is at a path. -/
def Handler.checksAt (vocabulary : Vocabulary) (path : FieldPath) (depth : Nat)
    (handler : Handler)
    : List Check :=
  let inner := path ++ List.replicate depth (.field "nextHandler")
  [ require (inner.field "methodName") (nonBlank? handler.methodName).isSome
      (.incompleteHandler .noMethodName),
    require (inner.field "entityType") handler.entityType.isSome (.incompleteHandler .noEntityType),
    knownEntity vocabulary (inner.field "entityType") handler.entityType]

/-- The checks of a property of the other side of a link. -/
def EntityProperty.checks (vocabulary : Vocabulary) (path : FieldPath) (property : EntityProperty)
    : List Check :=
  [ require (path.field "entity") property.entity.isSome (.incompleteHandler .noTargetEntity),
    knownEntity vocabulary (path.field "entity") property.entity]
    ++ nonEmpty (path.field "propertyHandler") (.incompleteHandler .noHandler)
        (Handler.checksAt vocabulary (path.field "propertyHandler"))
        property.handlers

namespace LinkDeclaration

/-- The checks of what passes over a link. -/
def commodityChecks (vocabulary : Vocabulary) (path : FieldPath) (declaration : LinkDeclaration)
    : List Check :=
  let list := path.field "commodityDefs"
  nonEmpty list .missingCommodityDefs
    (fun index definition =>
      knownCommodity vocabulary ((list.index index).field "type") definition.commodityType)
    declaration.commodityDefs

/-- The checks of what the discovering side of a link reports. -/
def probeChecks (path : FieldPath) (declaration : LinkDeclaration) : List Check :=
  let list := path.field "probeEntityPropertyDef"
  nonEmpty list (.missingProbeProperties .noDefinitions)
    (fun index property =>
      [ require ((list.index index).field "name") (nonBlank? property.name).isSome
          (.missingProbeProperties .unnamedDefinition)])
    declaration.probeProperties

/-- The checks of what is taken over from the other side of a link. -/
def propertyChecks (vocabulary : Vocabulary) (path : FieldPath) (declaration : LinkDeclaration)
    : List Check :=
  let list := path.field "externalEntityPropertyDefs"
  nonEmpty list .missingEntityProperties
    (fun index property => property.checks vocabulary (list.index index))
    declaration.entityProperties

end LinkDeclaration

namespace LinkEntry

variable (vocabulary : Vocabulary) (node : Option EntityType)

/-- The label that a link gives to its seller, which it does where the node is the buyer. -/
def stated? (link : LinkEntry) : Option (EntityType × Relationship) := do
  let seller ← vocabulary.entityNamed? link.value.sellerRef
  let buyer ← vocabulary.entityNamed? link.value.buyerRef
  let relationship ← link.value.relationship.bind Labelled.parse?
  if node = some buyer then some (seller, relationship) else none

/-- The node is neither the buyer nor the seller of a link. -/
def outOfScope? (link : LinkEntry) : Option Cause := do
  let node ← node
  let seller ← vocabulary.entityNamed? link.value.sellerRef
  let buyer ← vocabulary.entityNamed? link.value.buyerRef
  if node = buyer ∨ node = seller then none else some (.linkOutOfScope node buyer seller)

/-- The checks of the references of a link at a path. -/
def referenceChecks (path : FieldPath) (link : LinkEntry) : List Check :=
  let inner := path.field "value"
  [knownEntity vocabulary (inner.field "sellerRef") link.value.sellerRef]
    ++ [knownEntity vocabulary (inner.field "buyerRef") link.value.buyerRef]
    ++ (link.key.map (fun name => knownEntity vocabulary (path.field "key") (some name))).toList
    ++ [knownLabel Relationship (inner.field "relationship") .unknownRelationship
        link.value.relationship]

/-- The checks of the link at a position, behind the labels that are stated before it. -/
def checks (earlier : List (EntityType × Relationship)) (position : Nat) (link : LinkEntry)
    : List Check :=
  let path := FieldPath.index [.field "externalLink"] position
  let inner := path.field "value"
  link.referenceChecks vocabulary path
    ++ [⟨inner.field "buyerRef", link.outOfScope? vocabulary node⟩]
    ++ link.value.commodityChecks vocabulary inner
    ++ link.value.probeChecks inner
    ++ link.value.propertyChecks vocabulary inner
    ++ [⟨inner.field "relationship",
        (link.stated? vocabulary node).bind (contradiction? earlier)⟩]

end LinkEntry

-----------------------------------------------------------------------------------------
-- Entries
-----------------------------------------------------------------------------------------

/-- All checks of an entry in the order in which they are made. -/
def Entry.checks (vocabulary : Vocabulary) (entry : Entry) : List Check :=
  let node := vocabulary.entityNamed? (some entry.templateClass)
  let groups := entry.commodityBought
  let links := entry.externalLink
  [knownEntity vocabulary [.field "templateClass"] (some entry.templateClass)]
    ++ [knownLabel TemplateKind [.field "templateType"] .unknownTemplateType entry.templateType]
    ++ nonEmpty [.field "commoditySold"] .missingSoldCommodities
        (fun position commodity =>
          knownCommodity vocabulary
            ((FieldPath.index [.field "commoditySold"] position).field "commodityType")
            commodity.commodityType)
        entry.commoditySold
    ++ inTurn (BoughtGroup.checks vocabulary) groups
    ++ inTurn
        (fun position group => [group.agreement vocabulary (groups.take position) position])
        groups
    ++ inTurn
        (fun position link =>
          link.checks vocabulary node
            (groups.filterMap (BoughtGroup.stated? vocabulary)
              ++ (links.take position).filterMap (LinkEntry.stated? vocabulary node))
            position)
        links

end Template

end SupplyGraph
