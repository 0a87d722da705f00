import SupplyGraph.Template.Format
import SupplyGraph.Template.Record

/-!
Decoding template documents, in any format. Members with other names are skipped; members that are
left out take their defaults, except for the class of an entry, which every entry must have. Each
container is read one level less deep than the one around it.
-/

namespace SupplyGraph.Template

variable {m : Type → Type} [Monad m] {σ : Type} [Format m σ]

namespace Commodity

def names : List String := ["commodityType", "key", "optional"]

def decode (depth : Nat) (value : σ) : m Commodity := do
  let members ← Format.members depth names value
  return {
    commodityType := ← members.getOptional "commodityType" Format.text
    key := ← members.getOptional "key" Format.text
    optional := ← members.get "optional" false Format.flag }

end Commodity

namespace ProviderRef

def names : List String := ["templateClass", "providerType", "cardinalityMin", "cardinalityMax"]

def decode (depth : Nat) (value : σ) : m ProviderRef := do
  let members ← Format.members depth names value
  return {
    templateClass := ← members.getOptional "templateClass" Format.text
    providerType := ← members.getOptional "providerType" Format.text
    cardinalityMin := ← members.getOptional "cardinalityMin" Format.integer
    cardinalityMax := ← members.getOptional "cardinalityMax" Format.integer }

end ProviderRef

namespace BoughtGroup

def names : List String := ["key", "value"]

def decode (depth : Nat) (value : σ) : m BoughtGroup := do
  let members ← Format.members depth names value
  return {
    key := ← members.getOptional "key" (ProviderRef.decode (depth - 1))
    value := ← members.getList (depth - 1) "value" (Commodity.decode (depth - 2)) }

end BoughtGroup

namespace CommodityDef

def names : List String := ["type", "hasKey"]

def decode (depth : Nat) (value : σ) : m CommodityDef := do
  let members ← Format.members depth names value
  return {
    commodityType := ← members.getOptional "type" Format.text
    hasKey := ← members.get "hasKey" false Format.flag }

end CommodityDef

namespace ProbeProperty

def names : List String := ["name", "description"]

def decode (depth : Nat) (value : σ) : m ProbeProperty := do
  let members ← Format.members depth names value
  return {
    name := ← members.getOptional "name" Format.text
    description := ← members.getOptional "description" Format.text }

end ProbeProperty

namespace Handler

def names : List String := ["methodName", "entityType", "directlyApply", "nextHandler"]

/-- A handler and the handlers written inside it, by recursion on the depth. Where no container may
be nested any more, a handler can still be written without any members. -/
def decodeChain : (depth : Nat) → σ → m (List Handler)
  | 0, value => do
      let _ ← Format.members 0 names value
      return [{}]
  | depth + 1, value => do
      let members ← Format.members (depth + 1) names value
      let handler : Handler := {
        methodName := ← members.getOptional "methodName" Format.text
        entityType := ← members.getOptional "entityType" Format.text
        directlyApply := ← members.get "directlyApply" false Format.flag }
      let next ← members.getOptional "nextHandler" (decodeChain depth)
      return handler :: next.getD []

end Handler

namespace EntityProperty

def names : List String := ["entity", "attribute", "useTopoExt", "propertyHandler"]

def decode (depth : Nat) (value : σ) : m EntityProperty := do
  let members ← Format.members depth names value
  let handlers ← members.getOptional "propertyHandler" (Handler.decodeChain (depth - 1))
  return {
    entity := ← members.getOptional "entity" Format.text
    attributeName := ← members.getOptional "attribute" Format.text
    useTopoExt := ← members.get "useTopoExt" false Format.flag
    handlers := handlers.getD [] }

end EntityProperty

namespace LinkDeclaration

def names : List String :=
  ["buyerRef", "sellerRef", "relationship", "commodityDefs", "key", "hasExternalEntity",
    "probeEntityPropertyDef", "externalEntityPropertyDefs"]

def decode (depth : Nat) (value : σ) : m LinkDeclaration := do
  let members ← Format.members depth names value
  return {
    buyerRef := ← members.getOptional "buyerRef" Format.text
    sellerRef := ← members.getOptional "sellerRef" Format.text
    relationship := ← members.getOptional "relationship" Format.text
    commodityDefs :=
      ← members.getList (depth - 1) "commodityDefs" (CommodityDef.decode (depth - 2))
    key := ← members.getOptional "key" Format.text
    hasExternalEntity := ← members.getOptional "hasExternalEntity" Format.flag
    probeProperties :=
      ← members.getList (depth - 1) "probeEntityPropertyDef" (ProbeProperty.decode (depth - 2))
    entityProperties :=
      ← members.getList (depth - 1) "externalEntityPropertyDefs"
        (EntityProperty.decode (depth - 2)) }

end LinkDeclaration

namespace LinkEntry

def names : List String := ["key", "value"]

def decode (depth : Nat) (value : σ) : m LinkEntry := do
  let members ← Format.members depth names value
  return {
    key := ← members.getOptional "key" Format.text
    value := ← members.get "value" {} (LinkDeclaration.decode (depth - 1)) }

end LinkEntry

namespace Entry

def names : List String :=
  ["templateClass", "templateType", "templatePriority", "commoditySold", "commodityBought",
    "externalLink"]

def decode (depth : Nat) (value : σ) : m Entry := do
  let members ← Format.members depth names value
  return {
    templateClass := ← (members.find? "templateClass").elim Format.refuse Format.text
    templateType := ← members.getOptional "templateType" Format.text
    templatePriority := ← members.getOptional "templatePriority" Format.integer
    commoditySold := ← members.getList (depth - 1) "commoditySold" (Commodity.decode (depth - 2))
    commodityBought :=
      ← members.getList (depth - 1) "commodityBought" (BoughtGroup.decode (depth - 2))
    externalLink := ← members.getList (depth - 1) "externalLink" (LinkEntry.decode (depth - 2)) }

end Entry

namespace Document

def names : List String := ["supplyChainNode"]

def decode (depth : Nat) (value : σ) : m Document := do
  let members ← Format.members depth names value
  return { entries := ← members.getList (depth - 1) "supplyChainNode" (Entry.decode (depth - 2)) }

end Document

end SupplyGraph.Template
