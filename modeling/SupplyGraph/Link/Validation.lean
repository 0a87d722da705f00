import SupplyGraph.Link.Rule

/-!
Validation of the links of an entry. The references of a link are resolved first, then the rules
are applied to it. Every label that a link declares holds for the links after it.
-/

namespace SupplyGraph

namespace LinkRule

/-- Applies rules one after the other, up to the first fault. -/
def applyAll (context : LinkContext) (path : FieldPath) (declaration : Template.LinkDeclaration)
    (rules : List LinkRule) (link : Link)
    : Except Fault Link :=
  rules.foldlM
    (fun link rule =>
      match rule.apply context path declaration link with
      | (link, none) => .ok link
      | (_, some fault) => .error fault)
    link

end LinkRule

namespace Link

/-- The link that a declaration refers to, before any rule is applied to it. -/
def ofReferences (vocabulary : Vocabulary) (path : FieldPath) (entry : Template.LinkEntry)
    : Except Fault Link := do
  let declaration := entry.value
  let inner := path.field "value"
  let seller ← vocabulary.reference (inner.field "sellerRef") declaration.sellerRef
  let buyer ← vocabulary.reference (inner.field "buyerRef") declaration.buyerRef
  let key ←
    checkOptional (fun name => vocabulary.reference (path.field "key") (some name)) entry.key
  let relationship ←
    checkOptional (Relationship.ofLabel (inner.field "relationship")) declaration.relationship
  return {
    key, buyer, seller, relationship
    linkKey := declaration.key
    hasExternalEntity := declaration.hasExternalEntity.getD false
    commodities := ∅
    probeProperties := ∅
    propagations := [] }

/-- The link that the link entry at a position declares. -/
def validate (context : LinkContext) (position : Nat) (entry : Template.LinkEntry)
    : Except Fault Link := do
  let path := FieldPath.index [.field "externalLink"] position
  let link ← ofReferences context.vocabulary path entry
  LinkRule.applyAll context (path.field "value") entry.value LinkRule.all link

end Link

/-- The context for the links after a link. -/
def LinkContext.after (context : LinkContext) (link : Link) : LinkContext :=
  match link.declaredLabel? context.node with
  | none => context
  | some label => { context with labels := context.labels.insert link.seller label }

/-- The links that link entries declare, the first of which is at a position. -/
def Link.validateFrom (context : LinkContext)
    : (position : Nat) → List Template.LinkEntry → Except Fault (List Link)
  | _, [] => .ok []
  | position, entry :: rest => do
      let link ← Link.validate context position entry
      let links ← validateFrom (context.after link) (position + 1) rest
      return link :: links

/-- The links that the link entries of an entry declare. -/
def Link.validateAll (context : LinkContext) (entries : List Template.LinkEntry)
    : Except Fault (List Link) :=
  validateFrom context 0 entries

end SupplyGraph
