/-!
Template documents as they are written. Names are still plain texts here and almost everything may
be left out; whether a name is known and whether a part may be missing is for the compiler to say.
-/

namespace SupplyGraph.Template

/-- A commodity that an entry sells or buys. A key, even an empty one, marks a keyed commodity. -/
structure Commodity where
  commodityType : Option String := none
  key : Option String := none
  optional : Bool := false
deriving DecidableEq, Repr, Inhabited

/-- The provider of a bought group: its class, its relationship label, and how many there may be. -/
structure ProviderRef where
  templateClass : Option String := none
  providerType : Option String := none
  cardinalityMin : Option Int32 := none
  cardinalityMax : Option Int32 := none
deriving DecidableEq, Repr, Inhabited

/-- The commodities bought from one provider. -/
structure BoughtGroup where
  key : Option ProviderRef := none
  value : List Commodity := []
deriving DecidableEq, Repr, Inhabited

/-- A commodity that passes over a link. -/
structure CommodityDef where
  commodityType : Option String := none
  hasKey : Bool := false
deriving DecidableEq, Repr, Inhabited

/-- A property that the discovering side reports. -/
structure ProbeProperty where
  name : Option String := none
  description : Option String := none
deriving DecidableEq, Repr, Inhabited

/-- One step in the evaluation of a property: a method and the entity type that it yields. -/
structure Handler where
  methodName : Option String := none
  entityType : Option String := none
  directlyApply : Bool := false
deriving DecidableEq, Repr, Inhabited

/-- A property taken over from the other side of a link. The handlers are written one inside the
other, each but the first as the next handler of the one before; no handler at all is the empty
list. -/
structure EntityProperty where
  entity : Option String := none
  attributeName : Option String := none
  useTopoExt : Bool := false
  handlers : List Handler := []
deriving DecidableEq, Repr, Inhabited

/-- What a link to another discovered entity declares. -/
structure LinkDeclaration where
  buyerRef : Option String := none
  sellerRef : Option String := none
  relationship : Option String := none
  commodityDefs : List CommodityDef := []
  key : Option String := none
  hasExternalEntity : Option Bool := none
  probeProperties : List ProbeProperty := []
  entityProperties : List EntityProperty := []
deriving DecidableEq, Repr, Inhabited

/-- A link of an entry, under the entity type that it leads to. -/
structure LinkEntry where
  key : Option String := none
  value : LinkDeclaration := {}
deriving DecidableEq, Repr, Inhabited

/-- One template: what a class of entities sells, buys and is linked to. -/
structure Entry where
  templateClass : String
  templateType : Option String := none
  templatePriority : Option Int32 := none
  commoditySold : List Commodity := []
  commodityBought : List BoughtGroup := []
  externalLink : List LinkEntry := []
deriving DecidableEq, Repr, Inhabited

/-- A whole document: its entries in order. -/
structure Document where
  entries : List Entry := []
deriving DecidableEq, Repr, Inhabited

end SupplyGraph.Template
