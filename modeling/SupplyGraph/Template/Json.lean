import SupplyGraph.Json.Members
import SupplyGraph.Json.Printer
import SupplyGraph.Json.Reader
import SupplyGraph.Template.Decoder

/-!
Template documents as JSON texts: the reading of every record, and the value that it is written as,
with every member present.
-/

namespace SupplyGraph

open Json (integer)

/-- A JSON value stands for what its own kind says and for nothing else; null is an absent value. -/
instance : Template.Format Option Json where
  refuse := none
  text := Json.string?
  flag := Json.bool?
  integer := Json.int32?
  present? value := some value.nonNull?
  items depth value := if depth = 0 then none else value.items?
  members depth names value := if depth = 0 then none else value.members? names 0

namespace Template

def Commodity.toJson (commodity : Commodity) : Json :=
  .object
    [("commodityType", Json.optional .string commodity.commodityType),
      ("key", Json.optional .string commodity.key),
      ("optional", .bool commodity.optional)]

def ProviderRef.toJson (provider : ProviderRef) : Json :=
  .object
    [("templateClass", Json.optional .string provider.templateClass),
      ("providerType", Json.optional .string provider.providerType),
      ("cardinalityMin", Json.optional (fun least => integer least.toInt) provider.cardinalityMin),
      ("cardinalityMax", Json.optional (fun most => integer most.toInt) provider.cardinalityMax)]

def BoughtGroup.toJson (group : BoughtGroup) : Json :=
  .object
    [("key", Json.optional ProviderRef.toJson group.key),
      ("value", .array (group.value.map Commodity.toJson))]

def CommodityDef.toJson (definition : CommodityDef) : Json :=
  .object
    [("type", Json.optional .string definition.commodityType),
      ("hasKey", .bool definition.hasKey)]

def ProbeProperty.toJson (property : ProbeProperty) : Json :=
  .object
    [("name", Json.optional .string property.name),
      ("description", Json.optional .string property.description)]

/-- A chain of handlers, each inside the one before. -/
def Handler.chainToJson : List Handler → Json
  | [] => .null
  | handler :: rest =>
      .object
        [("methodName", Json.optional .string handler.methodName),
          ("entityType", Json.optional .string handler.entityType),
          ("directlyApply", .bool handler.directlyApply),
          ("nextHandler", chainToJson rest)]

def EntityProperty.toJson (property : EntityProperty) : Json :=
  .object
    [("entity", Json.optional .string property.entity),
      ("attribute", Json.optional .string property.attributeName),
      ("useTopoExt", .bool property.useTopoExt),
      ("propertyHandler", Handler.chainToJson property.handlers)]

def LinkDeclaration.toJson (declaration : LinkDeclaration) : Json :=
  .object
    [("buyerRef", Json.optional .string declaration.buyerRef),
      ("sellerRef", Json.optional .string declaration.sellerRef),
      ("relationship", Json.optional .string declaration.relationship),
      ("commodityDefs", .array (declaration.commodityDefs.map CommodityDef.toJson)),
      ("key", Json.optional .string declaration.key),
      ("hasExternalEntity", Json.optional .bool declaration.hasExternalEntity),
      ("probeEntityPropertyDef", .array (declaration.probeProperties.map ProbeProperty.toJson)),
      ("externalEntityPropertyDefs",
        .array (declaration.entityProperties.map EntityProperty.toJson))]

def LinkEntry.toJson (link : LinkEntry) : Json :=
  .object
    [("key", Json.optional .string link.key),
      ("value", link.value.toJson)]

def Entry.toJson (entry : Entry) : Json :=
  .object
    [("templateClass", .string entry.templateClass),
      ("templateType", Json.optional .string entry.templateType),
      ("templatePriority",
        Json.optional (fun priority => integer priority.toInt) entry.templatePriority),
      ("commoditySold", .array (entry.commoditySold.map Commodity.toJson)),
      ("commodityBought", .array (entry.commodityBought.map BoughtGroup.toJson)),
      ("externalLink", .array (entry.externalLink.map LinkEntry.toJson))]

def Document.toJson (document : Document) : Json :=
  .object [("supplyChainNode", .array (document.entries.map Entry.toJson))]

/-- The document that a JSON value stands for. -/
def Document.ofJson? (json : Json) : Option Document := Document.decode Json.depthLimit json

/-- The document that a JSON text stands for. -/
def Document.ofJsonText? (text : String) : Option Document := do
  Document.ofJson? (← Json.parse? text)

end Template

end SupplyGraph
