import SupplyGraph.Json.Members
import SupplyGraph.Json.Reader
import SupplyGraph.Link.Basic

/-!
Links as JSON values. Every member is written; the ones that may be missing when a link is read are
those that may be null. Sets are written as arrays in ascending order and read from arrays in any
order.
-/

namespace SupplyGraph

namespace Json

/-- The label of a value as a JSON string. -/
def ofLabelled {α : Type} [Labelled α] (value : α) : Json := .string (Labelled.label value)

/-- The value whose label a JSON string is, up to blanks. -/
def labelled? {α : Type} [Labelled α] (json : Json) : Option α :=
  json.string?.bind Labelled.parse?

/-- A set as the array of its members in ascending order. -/
def ofSet {α : Type} [Key α] (encode : α → Json) (set : SortedSet α) : Json :=
  .array (set.toList.map encode)

/-- The set of what the items of an array decode to. -/
def set? {α : Type} [Key α] (decode : Json → Option α) (json : Json) : Option (SortedSet α) :=
  (json.list? decode).map SortedSet.ofList

end Json

namespace HandlerStep

def names : List String := ["methodName", "entityType", "directlyApply"]

def toJson (step : HandlerStep) : Json :=
  .object
    [("methodName", .string step.methodName),
      ("entityType", Json.ofLabelled step.entityType),
      ("directlyApply", .bool step.directlyApply)]

def ofJson? (json : Json) : Option HandlerStep := do
  let members ← json.members? names names.length
  return {
    methodName := ← Json.member? members "methodName" Json.string?
    entityType := ← Json.member? members "entityType" Json.labelled?
    directlyApply := ← Json.member? members "directlyApply" Json.bool? }

end HandlerStep

namespace Propagation

def names : List String := ["entity", "attribute", "useTopoExt", "handlers"]

def toJson (propagation : Propagation) : Json :=
  .object
    [("entity", Json.ofLabelled propagation.entity),
      ("attribute", Json.optional .string propagation.attributeName),
      ("useTopoExt", .bool propagation.useTopoExt),
      ("handlers", .array (propagation.handlers.map HandlerStep.toJson))]

def ofJson? (json : Json) : Option Propagation := do
  let members ← json.members? names names.length
  return {
    entity := ← Json.member? members "entity" Json.labelled?
    attributeName := ← Json.optionalMember? members "attribute" Json.string?
    useTopoExt := ← Json.member? members "useTopoExt" Json.bool?
    handlers := ← Json.member? members "handlers" (Json.list? HandlerStep.ofJson?) }

end Propagation

namespace Link

def names : List String :=
  ["key", "buyer", "seller", "relationship", "linkKey", "hasExternalEntity", "commodities",
    "probeProperties", "propagations"]

def toJson (link : Link) : Json :=
  .object
    [("key", Json.optional Json.ofLabelled link.key),
      ("buyer", Json.ofLabelled link.buyer),
      ("seller", Json.ofLabelled link.seller),
      ("relationship", Json.optional Json.ofLabelled link.relationship),
      ("linkKey", Json.optional .string link.linkKey),
      ("hasExternalEntity", .bool link.hasExternalEntity),
      ("commodities", Json.ofSet Json.ofLabelled link.commodities),
      ("probeProperties", Json.ofSet .string link.probeProperties),
      ("propagations", .array (link.propagations.map Propagation.toJson))]

def ofJson? (json : Json) : Option Link := do
  let members ← json.members? names names.length
  return {
    key := ← Json.optionalMember? members "key" Json.labelled?
    buyer := ← Json.member? members "buyer" Json.labelled?
    seller := ← Json.member? members "seller" Json.labelled?
    relationship := ← Json.optionalMember? members "relationship" Json.labelled?
    linkKey := ← Json.optionalMember? members "linkKey" Json.string?
    hasExternalEntity := ← Json.member? members "hasExternalEntity" Json.bool?
    commodities := ← Json.member? members "commodities" (Json.set? Json.labelled?)
    probeProperties := ← Json.member? members "probeProperties" (Json.set? Json.string?)
    propagations := ← Json.member? members "propagations" (Json.list? Propagation.ofJson?) }

/-- The link that a JSON text stands for. -/
def ofJsonText? (text : String) : Option Link := do ofJson? (← Json.parse? text)

end Link

end SupplyGraph
