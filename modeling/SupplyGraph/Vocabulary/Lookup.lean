import SupplyGraph.Vocabulary.Types
import SupplyGraph.Sorted.Map

/-!
The vocabulary that a compilation checks names against. The standard one knows every label; a
custom one knows the names that it lists, exactly as they are written.
-/

namespace SupplyGraph

/-- What the names of entity types and of commodity types mean. -/
structure Vocabulary where
  entityType? : String → Option EntityType
  commodityType? : String → Option CommodityType

namespace Vocabulary

/-- Every label is a name, with or without blanks around it. -/
def standard : Vocabulary where
  entityType? := Labelled.parse?
  commodityType? := Labelled.parse?

/-- The listed names only. -/
def custom (entities : SortedMap String EntityType) (commodities : SortedMap String CommodityType)
    : Vocabulary where
  entityType? := entities.find?
  commodityType? := commodities.find?

end Vocabulary

end SupplyGraph
