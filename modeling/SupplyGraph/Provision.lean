import SupplyGraph.Labels
import SupplyGraph.Trade

/-!
Who provides for a node. The purchases of an entry are gathered by provider; those from a provider
that hosts the node are also gathered on their own, because what hosts a node passes its properties
on.
-/

namespace SupplyGraph

/-- The commodities that belong to each of some entity types. -/
abbrev CommodityMap := SortedMap EntityType (SortedSet CommodityType)

/-- Adds members to the set of a key. The key has a set from then on, even an empty one. -/
def SortedMap.addAll {κ α : Type} [Key κ] [Key α] (map : SortedMap κ (SortedSet α)) (key : κ)
    (values : SortedSet α)
    : SortedMap κ (SortedSet α) :=
  map.update key (fun present => present.getD ∅ ∪ values)

/-- The providers of a node: what is bought from each, its label, how many there may be, and which
of them host the node and sell it what. -/
structure Provision where
  bought : CommodityMap := ∅
  labels : Labels := ∅
  cardinalities : SortedMap EntityType Cardinality := ∅
  hosting : Labels := ∅
  hosted : CommodityMap := ∅
deriving DecidableEq, Repr

namespace Provision

/-- Adds a purchase. The first cardinality that is given for a provider stays. -/
def add (provision : Provision) (position : Nat) (purchase : Purchase)
    : Except Fault Provision := do
  let path := FieldPath.index [.field "commodityBought"] position
  let labels ←
    provision.labels.declare ((path.field "key").field "providerType") purchase.provider
      purchase.relationship
  let provision := { provision with
    labels
    bought := provision.bought.addAll purchase.provider purchase.commodities
    cardinalities :=
      match purchase.cardinality with
      | none => provision.cardinalities
      | some cardinality => provision.cardinalities.insertNew purchase.provider cardinality }
  if purchase.relationship.isHosting then
    return { provision with
      hosting := provision.hosting.insert purchase.provider purchase.relationship
      hosted := provision.hosted.addAll purchase.provider purchase.commodities }
  else return provision

/-- Gathers purchases in order. Two that name one provider must agree on its label. -/
def ofPurchases (purchases : List Purchase) : Except Fault Provision :=
  purchases.zipIdx.foldlM (fun provision (purchase, position) => provision.add position purchase) {}

end Provision

end SupplyGraph
