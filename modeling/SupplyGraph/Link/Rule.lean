import SupplyGraph.Link.Basic
import SupplyGraph.Sequence
import SupplyGraph.Template.Record
import SupplyGraph.Vocabulary.Resolve

/-!
The rules that a link declaration is checked by. Each rule checks one section of the declaration
and adds what it finds there to the link; when it fails, what came before the fault has been added.
-/

namespace SupplyGraph

/-- What the rules may consult: the vocabulary, the node that the entry is about, and the labels
that the entry has declared so far. -/
structure LinkContext where
  vocabulary : Vocabulary
  node : EntityType
  labels : Labels

namespace HandlerStep

/-- The step that a handler at a path declares. -/
def ofHandler (vocabulary : Vocabulary) (path : FieldPath) (handler : Template.Handler)
    : Except Fault HandlerStep := do
  let methodName := Text.trim (handler.methodName.getD "")
  if methodName.isEmpty then .error ⟨path.field "methodName", .incompleteHandler .noMethodName⟩
  else
    match handler.entityType with
    | none => .error ⟨path.field "entityType", .incompleteHandler .noEntityType⟩
    | some name => do
        let entityType ← vocabulary.reference (path.field "entityType") (some name)
        return ⟨methodName, entityType, handler.directlyApply⟩

/-- The steps of handlers of which each is inside the one before, the first one at a path. -/
def ofChain (vocabulary : Vocabulary)
    : (path : FieldPath) → List Template.Handler → Except Fault (List HandlerStep)
  | _, [] => .ok []
  | path, handler :: rest => do
      let step ← ofHandler vocabulary path handler
      let steps ← ofChain vocabulary (path.field "nextHandler") rest
      return step :: steps

/-- The steps of a property, which has at least one handler. -/
def ofHandlers (vocabulary : Vocabulary) (path : FieldPath) (handlers : List Template.Handler)
    : Except Fault (List HandlerStep) :=
  if handlers.isEmpty then .error ⟨path, .incompleteHandler .noHandler⟩
  else ofChain vocabulary path handlers

end HandlerStep

/-- The propagation that a property at a position of a list declares. -/
def Propagation.ofProperty (vocabulary : Vocabulary) (list : FieldPath) (position : Nat)
    (property : Template.EntityProperty)
    : Except Fault Propagation := do
  let path := list.index position
  match property.entity with
  | none => .error ⟨path.field "entity", .incompleteHandler .noTargetEntity⟩
  | some name => do
      let entity ← vocabulary.reference (path.field "entity") (some name)
      let handlers ←
        HandlerStep.ofHandlers vocabulary (path.field "propertyHandler") property.handlers
      return ⟨entity, property.attributeName, property.useTopoExt, handlers⟩

/-- The name that a property at a position of a list is reported by. -/
def probePropertyName (list : FieldPath) (position : Nat) (property : Template.ProbeProperty)
    : Except Fault String :=
  let name := Text.trim (property.name.getD "")
  if name.isEmpty then
    .error ⟨(list.index position).field "name", .missingProbeProperties .unnamedDefinition⟩
  else .ok name

inductive LinkRule where
  | scope
  | commodityDefs
  | probeProperties
  | entityProperties
  | hostingConsistency
deriving DecidableEq, Repr

namespace LinkRule

/-- The rules in the order in which a declaration is checked. -/
def all : List LinkRule :=
  [scope, commodityDefs, probeProperties, entityProperties, hostingConsistency]

def name : LinkRule → String
  | scope => "scope"
  | commodityDefs => "commodity_defs"
  | probeProperties => "probe_properties"
  | entityProperties => "external_properties"
  | hostingConsistency => "hosting_consistency"

def ofName? (name : String) : Option LinkRule := all.find? (fun rule => rule.name == name)

/-- Checks a list that must not be empty and adds what its items come to. -/
def fill {α β : Type} (link : Link) (missing : Fault) (check : Nat → α → Except Fault β)
    (items : List α) (add : Link → List β → Link)
    : Link × Option Fault :=
  if items.isEmpty then (link, some missing)
  else
    let (results, fault) := Sequence.run check 0 items
    (add link results, fault)

/-- Applies a rule to the declaration at a path: the link with what the rule has added, and the
fault that it has found. -/
def apply (context : LinkContext) (path : FieldPath) (declaration : Template.LinkDeclaration)
    (link : Link)
    : LinkRule → Link × Option Fault
  | scope =>
      if context.node = link.buyer ∨ context.node = link.seller then (link, none)
      else
        (link, some ⟨path.field "buyerRef", .linkOutOfScope context.node link.buyer link.seller⟩)
  | commodityDefs =>
      let list := path.field "commodityDefs"
      fill link ⟨list, .missingCommodityDefs⟩
        (fun position (definition : Template.CommodityDef) =>
          context.vocabulary.commodity ((list.index position).field "type")
            definition.commodityType)
        declaration.commodityDefs
        (fun link commodities =>
          { link with commodities := commodities.foldl SortedSet.insert link.commodities })
  | probeProperties =>
      let list := path.field "probeEntityPropertyDef"
      fill link ⟨list, .missingProbeProperties .noDefinitions⟩
        (probePropertyName list)
        declaration.probeProperties
        (fun link names =>
          { link with probeProperties := names.foldl SortedSet.insert link.probeProperties })
  | entityProperties =>
      let list := path.field "externalEntityPropertyDefs"
      fill link ⟨list, .missingEntityProperties⟩
        (Propagation.ofProperty context.vocabulary list)
        declaration.entityProperties
        (fun link propagations => { link with propagations := link.propagations ++ propagations })
  | hostingConsistency =>
      match link.declaredLabel? context.node with
      | none => (link, none)
      | some declared =>
          (link, (context.labels.conflict? link.seller declared).map (fun cause =>
            ⟨path.field "relationship", cause⟩))

end LinkRule

end SupplyGraph
