import SupplyGraph.Chain
import SupplyGraph.Link.Validation

/-!
Compiling template documents. The entries are compiled to nodes and folded into a chain in the
order of the document; the first fault rejects the whole document.
-/

namespace SupplyGraph

/-- The node that one entry declares. -/
def Node.ofEntry (vocabulary : Vocabulary) (entry : Template.Entry) : Except Fault Node := do
  let entityType ←
    vocabulary.entity [.field "templateClass"] (Text.trim entry.templateClass)
  let kind ← checkOptional (TemplateKind.ofLabel [.field "templateType"]) entry.templateType
  let trade ← Trade.ofEntry vocabulary entry
  let provision ← Provision.ofPurchases trade.bought
  let links ← Link.validateAll ⟨vocabulary, entityType, provision.labels⟩ entry.externalLink
  return Node.ofParts entityType trade.sold trade.keyedSold provision links
    ⟨kind, entry.templatePriority⟩

namespace Chain

/-- Compiles the entry at a position of a document and folds its node into a chain. -/
def addEntry (vocabulary : Vocabulary) (chain : Chain) (position : Nat) (entry : Template.Entry)
    : Except Rejection Chain :=
  match Node.ofEntry vocabulary entry >>= chain.fold with
  | .ok extended => .ok extended
  | .error fault => .error (fault.within position entry.templateClass)

/-- Adds entries in order, the first of which is at a position. -/
def addEntries (vocabulary : Vocabulary)
    : (chain : Chain) → (position : Nat) → List Template.Entry → Except Rejection Chain
  | chain, _, [] => .ok chain
  | chain, position, entry :: rest => do
      let extended ← chain.addEntry vocabulary position entry
      addEntries vocabulary extended (position + 1) rest

end Chain

/-- The chain that a document describes. -/
def compile (vocabulary : Vocabulary) (document : Template.Document) : Except Rejection Chain :=
  Chain.addEntries vocabulary ∅ 0 document.entries

end SupplyGraph
