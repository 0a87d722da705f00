import SupplyGraph.Sequence
import SupplyGraph.Sorted.Set
import SupplyGraph.Template.Record
import SupplyGraph.Vocabulary.Resolve

/-!
What an entry sells and buys, with all names resolved. An entry must sell something; every bought
group must name its provider and its relationship to it.
-/

namespace SupplyGraph

/-- How many providers there may be. It is recorded and not enforced. -/
structure Cardinality where
  least : Option Int32
  most : Option Int32
deriving DecidableEq, Repr, Inhabited

/-- What is bought from one provider. -/
structure Purchase where
  provider : EntityType
  relationship : Relationship
  commodities : SortedSet CommodityType
  cardinality : Option Cardinality
deriving DecidableEq, Repr

/-- What an entry sells and buys. The keyed commodities are among those that it sells. -/
structure Trade where
  sold : SortedSet CommodityType
  keyedSold : SortedSet CommodityType
  bought : List Purchase
deriving DecidableEq, Repr

/-- The cardinality that two optional bounds make up: none if there is no bound. -/
def Cardinality.ofBounds (field : FieldPath)
    : (least most : Option Int32) → Except Fault (Option Cardinality)
  | none, none => .ok none
  | some least, some most =>
      if most < least then .error ⟨field, .invalidCardinality least most⟩
      else .ok (some ⟨some least, some most⟩)
  | least, most => .ok (some ⟨least, most⟩)

/-- The commodity type of a commodity in a list of an entry. -/
def Template.Commodity.resolve (vocabulary : Vocabulary) (list : FieldPath) (position : Nat)
    (commodity : Template.Commodity)
    : Except Fault CommodityType :=
  vocabulary.commodity ((list.index position).field "commodityType") commodity.commodityType

namespace Purchase

/-- The provider that a reference names. -/
def provider? (vocabulary : Vocabulary) (path : FieldPath) (reference : Template.ProviderRef)
    : Except Fault EntityType :=
  let name := Text.trim (reference.templateClass.getD "")
  if name.isEmpty then .error ⟨path.field "templateClass", .missingProvider⟩
  else vocabulary.entity (path.field "templateClass") name

/-- The relationship that a reference to a provider states. -/
def relationship? (path : FieldPath) (provider : EntityType) (reference : Template.ProviderRef)
    : Except Fault Relationship :=
  match reference.providerType with
  | none => .error ⟨path.field "providerType", .missingRelationship provider⟩
  | some label => Relationship.ofLabel (path.field "providerType") label

/-- The purchase that the bought group at a position declares. -/
def ofGroup (vocabulary : Vocabulary) (position : Nat) (group : Template.BoughtGroup)
    : Except Fault Purchase := do
  let path := FieldPath.index [.field "commodityBought"] position
  match group.key with
  | none => .error ⟨path.field "key", .missingProvider⟩
  | some reference => do
      let provider ← provider? vocabulary (path.field "key") reference
      let relationship ← relationship? (path.field "key") provider reference
      let cardinality ←
        Cardinality.ofBounds ((path.field "key").field "cardinalityMin")
          reference.cardinalityMin reference.cardinalityMax
      let commodities ←
        Sequence.collect (Template.Commodity.resolve vocabulary (path.field "value")) group.value
      return ⟨provider, relationship, SortedSet.ofList commodities, cardinality⟩

end Purchase

namespace Trade

/-- The sold commodities of an entry in order, each with whether it has a key. -/
def soldOf (vocabulary : Vocabulary) (sold : List Template.Commodity)
    : Except Fault (List (CommodityType × Bool)) :=
  if sold.isEmpty then .error ⟨[.field "commoditySold"], .missingSoldCommodities⟩
  else
    Sequence.collect
      (fun position commodity => do
        let commodityType ← commodity.resolve vocabulary [.field "commoditySold"] position
        return (commodityType, commodity.key.isSome))
      sold

/-- What an entry trades. -/
def ofEntry (vocabulary : Vocabulary) (entry : Template.Entry) : Except Fault Trade := do
  let sold ← soldOf vocabulary entry.commoditySold
  let bought ← Sequence.collect (Purchase.ofGroup vocabulary) entry.commodityBought
  return ⟨SortedSet.ofList (sold.map Prod.fst),
    SortedSet.ofList ((sold.filter Prod.snd).map Prod.fst), bought⟩

end Trade

end SupplyGraph
