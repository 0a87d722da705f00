import SupplyGraph.Link.Basic
import SupplyGraph.Provision

/-!
Nodes of the graph. A node says what its entity type sells, buys and is linked to. Links feed the
hosting maps of the node, by their sellers.
-/

namespace SupplyGraph

/-- The kind and the priority that one entry states. They have no influence on the graph. -/
structure TemplateMeta where
  kind : Option TemplateKind
  priority : Option Int32
deriving DecidableEq, Repr, Inhabited

/-- A node. Provider labels come from bought groups and link labels from links at which the node is
the buyer. The hosted commodities and properties are kept for every seller of a link, so there are
providers among them that do not host the node. -/
structure Node where
  entityType : EntityType
  sold : SortedSet CommodityType := ∅
  keyedSold : SortedSet CommodityType := ∅
  bought : CommodityMap := ∅
  providerLabels : Labels := ∅
  cardinalities : SortedMap EntityType Cardinality := ∅
  linkLabels : Labels := ∅
  hosting : Labels := ∅
  hostedCommodities : CommodityMap := ∅
  hostedProperties : SortedMap EntityType (SortedSet String) := ∅
  links : List Link := []
  templates : List TemplateMeta := []
deriving DecidableEq, Repr

namespace Node

/-- Enters what a link says about its seller. -/
def addLink (node : Node) (link : Link) : Node :=
  { node with
    linkLabels :=
      match link.declaredLabel? node.entityType with
      | none => node.linkLabels
      | some label => node.linkLabels.insert link.seller label
    hosting :=
      if link.hosts node.entityType then node.hosting.insert link.seller .hosting
      else node.hosting
    hostedCommodities := node.hostedCommodities.addAll link.seller link.commodities
    hostedProperties := node.hostedProperties.addAll link.seller link.probeProperties
    links := node.links ++ [link] }

/-- The node that the parts of one entry make up. -/
def ofParts (entityType : EntityType) (sold keyedSold : SortedSet CommodityType)
    (provision : Provision) (links : List Link) (template : TemplateMeta)
    : Node :=
  links.foldl addLink {
    entityType, sold, keyedSold
    bought := provision.bought
    providerLabels := provision.labels
    cardinalities := provision.cardinalities
    hosting := provision.hosting
    hostedCommodities := provision.hosted
    templates := [template] }

def isHostedBy (node : Node) (provider : EntityType) : Bool := node.hosting.contains provider

def hostingProviders (node : Node) : List EntityType := node.hosting.keys

end Node

end SupplyGraph
