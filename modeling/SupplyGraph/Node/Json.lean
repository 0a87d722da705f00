import SupplyGraph.Link.Json
import SupplyGraph.Node.Basic

/-!
Nodes as JSON values. A map whose keys have labels is an object with a member for every entry.
-/

namespace SupplyGraph

/-- A map as an object whose members are named by the labels of the keys. -/
def Json.ofMap {κ α : Type} [Key κ] [Labelled κ] (encode : α → Json) (map : SortedMap κ α)
    : Json :=
  .object (map.entries.map (fun entry => (Labelled.label entry.1, encode entry.2)))

def Cardinality.toJson (cardinality : Cardinality) : Json :=
  .object
    [("min", Json.optional (fun least => Json.integer least.toInt) cardinality.least),
      ("max", Json.optional (fun most => Json.integer most.toInt) cardinality.most)]

def TemplateMeta.toJson (template : TemplateMeta) : Json :=
  .object
    [("kind", Json.optional Json.ofLabelled template.kind),
      ("priority", Json.optional (fun priority => Json.integer priority.toInt) template.priority)]

def Labels.toJson (labels : Labels) : Json := Json.ofMap Json.ofLabelled labels

def CommodityMap.toJson (map : CommodityMap) : Json :=
  Json.ofMap (Json.ofSet Json.ofLabelled) map

def Node.toJson (node : Node) : Json :=
  .object
    [("entityType", Json.ofLabelled node.entityType),
      ("supportedSoldComms", Json.ofSet Json.ofLabelled node.sold),
      ("keyedSoldComms", Json.ofSet Json.ofLabelled node.keyedSold),
      ("supportedBoughtComms", CommodityMap.toJson node.bought),
      ("providerRelationships", Labels.toJson node.providerLabels),
      ("providerCardinality", Json.ofMap Cardinality.toJson node.cardinalities),
      ("linkRelationships", Labels.toJson node.linkLabels),
      ("hostedByProviderType", Labels.toJson node.hosting),
      ("hostedByProviderComms", CommodityMap.toJson node.hostedCommodities),
      ("hostedByProviderProps", Json.ofMap (Json.ofSet .string) node.hostedProperties),
      ("externalLinks", .array (node.links.map Link.toJson)),
      ("templates", .array (node.templates.map TemplateMeta.toJson))]

end SupplyGraph
