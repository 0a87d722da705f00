import SupplyGraph.Fault
import SupplyGraph.Template.Record
import SupplyGraph.Vocabulary.Lookup

/-!
The names in a document, as a vocabulary is asked for them: without the blanks around them, and
each either as the name of an entity type or as the name of a commodity type.
-/

namespace SupplyGraph

/-- A name that a vocabulary can be asked for. -/
inductive Name where
  | entity (text : String)
  | commodity (text : String)
deriving DecidableEq, Repr

/-- What a name can mean. -/
inductive Term where
  | entity (entityType : EntityType)
  | commodity (commodityType : CommodityType)
deriving DecidableEq, Repr

/-- What is wrong with a name that has no meaning. -/
def Name.unknown : Name → Cause
  | entity text => .unknownEntityType text
  | commodity text => .unknownCommodityType text

namespace Vocabulary

/-- What a vocabulary answers when it is asked for a name. -/
def meaning? (vocabulary : Vocabulary) : Name → Option Term
  | .entity text => (vocabulary.entityType? text).map .entity
  | .commodity text => (vocabulary.commodityType? text).map .commodity

/-- An entity type is meant only by the name of an entity type. -/
theorem meaning?_entity_eq_some_iff {vocabulary : Vocabulary} {text : String}
    {entityType : EntityType}
    : vocabulary.meaning? (.entity text) = some (.entity entityType)
      ↔ vocabulary.entityType? text = some entityType := by
  simp [meaning?]

/-- A commodity type is meant only by the name of a commodity type. -/
theorem meaning?_commodity_eq_some_iff {vocabulary : Vocabulary} {text : String}
    {commodityType : CommodityType}
    : vocabulary.meaning? (.commodity text) = some (.commodity commodityType)
      ↔ vocabulary.commodityType? text = some commodityType := by
  simp [meaning?]

end Vocabulary

namespace Template

/-- The name of an entity type, where one is written. -/
def entityNames (name : Option String) : List Name :=
  name.toList.map (fun text => .entity (Text.trim text))

/-- The name of a commodity type, where one is written. -/
def commodityNames (name : Option String) : List Name :=
  name.toList.map (fun text => .commodity (Text.trim text))

def Commodity.mentions (commodity : Commodity) : List Name := commodityNames commodity.commodityType

def ProviderRef.mentions (reference : ProviderRef) : List Name :=
  entityNames reference.templateClass

def BoughtGroup.mentions (group : BoughtGroup) : List Name :=
  group.key.toList.flatMap ProviderRef.mentions ++ group.value.flatMap Commodity.mentions

def CommodityDef.mentions (definition : CommodityDef) : List Name :=
  commodityNames definition.commodityType

def Handler.mentions (handler : Handler) : List Name := entityNames handler.entityType

def EntityProperty.mentions (property : EntityProperty) : List Name :=
  entityNames property.entity ++ property.handlers.flatMap Handler.mentions

/-- The names in a link declaration. A reference that is left out counts as the empty name. -/
def LinkDeclaration.mentions (declaration : LinkDeclaration) : List Name :=
  [ .entity (Text.trim (declaration.sellerRef.getD "")),
    .entity (Text.trim (declaration.buyerRef.getD ""))]
    ++ declaration.commodityDefs.flatMap CommodityDef.mentions
    ++ declaration.entityProperties.flatMap EntityProperty.mentions

def LinkEntry.mentions (link : LinkEntry) : List Name := entityNames link.key ++ link.value.mentions

def Entry.mentions (entry : Entry) : List Name :=
  [.entity (Text.trim entry.templateClass)]
    ++ entry.commoditySold.flatMap Commodity.mentions
    ++ entry.commodityBought.flatMap BoughtGroup.mentions
    ++ entry.externalLink.flatMap LinkEntry.mentions

def Document.mentions (document : Document) : List Name := document.entries.flatMap Entry.mentions

/-- What an item mentions is among the names that a list of items does. -/
theorem mentions_subset {α : Type} {mentions : α → List Name} {items : List α} {names : List Name}
    (h : items.flatMap mentions ⊆ names) {item : α} (hm : item ∈ items)
    : mentions item ⊆ names :=
  fun _ hname => h (List.mem_flatMap_of_mem hm hname)

end Template

end SupplyGraph
