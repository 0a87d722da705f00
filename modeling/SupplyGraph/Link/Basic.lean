import SupplyGraph.Labels
import SupplyGraph.Sorted.Set

/-!
Links to other discovered entities. A link carries commodities and properties from its seller to
its buyer and may declare a relationship, which is then the label of the seller at the buyer.
-/

namespace SupplyGraph

/-- One step in the evaluation of a property. -/
structure HandlerStep where
  methodName : String
  entityType : EntityType
  directlyApply : Bool
deriving DecidableEq, Repr, Inhabited

/-- How a property of an entity is carried over: through its handlers, the outermost first. -/
structure Propagation where
  entity : EntityType
  attributeName : Option String
  useTopoExt : Bool
  handlers : List HandlerStep
deriving DecidableEq, Repr, Inhabited

/-- A validated link. The link key is the commodity key that it matches on. -/
structure Link where
  key : Option EntityType
  buyer : EntityType
  seller : EntityType
  relationship : Option Relationship
  linkKey : Option String
  hasExternalEntity : Bool
  commodities : SortedSet CommodityType
  probeProperties : SortedSet String
  propagations : List Propagation
deriving DecidableEq, Repr, Inhabited

namespace Link

/-- The label that the link declares for its seller at a node. -/
def declaredLabel? (link : Link) (node : EntityType) : Option Relationship :=
  if link.buyer = node then link.relationship else none

/-- The seller hosts a node that buys over the link. -/
def hosts (link : Link) (node : EntityType) : Bool :=
  (link.declaredLabel? node).any Relationship.isHosting

end Link

end SupplyGraph
