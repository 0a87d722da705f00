import SupplyGraph.Link.Validation
import SupplyGraph.Proofs.Entry.Resolution
import SupplyGraph.Proofs.Labels.Agreement
import SupplyGraph.Proofs.Sorted.Gathering

/-!
What the links of an entry come to. Each link is what its declaration stands for on its own; the
links before it matter only for the label that it gives to its seller.
-/

namespace SupplyGraph

namespace Link

/-- The label that a link gives to its seller at a node, if the node is its buyer. -/
def label? (node : EntityType) (link : Link) : Option (EntityType × Relationship) :=
  (link.declaredLabel? node).map (fun label => (link.seller, label))

theorem filterMap_label?_cons (node : EntityType) (link : Link) (links : List Link)
    : (link :: links).filterMap (label? node)
      = (link.label? node).toList ++ links.filterMap (label? node) := by
  cases hl : link.label? node <;> simp [hl]

/-- What the references of a link entry stand for. -/
def references? (vocabulary : Vocabulary) (entry : Template.LinkEntry) : Option Link := do
  let seller ← vocabulary.entityNamed? entry.value.sellerRef
  let buyer ← vocabulary.entityNamed? entry.value.buyerRef
  let key ← readOptional? (fun name => vocabulary.entityNamed? (some name)) entry.key
  let relationship ← readOptional? Labelled.parse? entry.value.relationship
  return {
    key, buyer, seller, relationship
    linkKey := entry.value.key
    hasExternalEntity := entry.value.hasExternalEntity.getD false
    commodities := ∅
    probeProperties := ∅
    propagations := [] }

/-- What a link entry of a node stands for. -/
def declared? (vocabulary : Vocabulary) (node : EntityType) (entry : Template.LinkEntry)
    : Option Link := do
  let link ←
    (references? vocabulary entry).filter (fun link => node = link.buyer ∨ node = link.seller)
  let commodities ←
    readNonempty?
      (fun definition => vocabulary.commodityNamed? definition.commodityType)
      entry.value.commodityDefs
  let names ← readNonempty? (fun property => nonBlank? property.name) entry.value.probeProperties
  let propagations ←
    readNonempty? (Propagation.declared? vocabulary) entry.value.entityProperties
  return { link with
    commodities := SortedSet.ofList commodities
    probeProperties := SortedSet.ofList names
    propagations }

/-- The references of a link leave its sections empty. -/
theorem sections_of_references? {vocabulary : Vocabulary} {entry : Template.LinkEntry}
    {link : Link} (h : references? vocabulary entry = some link)
    : link.commodities = ∅ ∧ link.probeProperties = ∅ ∧ link.propagations = [] := by
  simp only [references?, Option.bind_eq_bind, Option.bind_eq_some_iff] at h
  obtain ⟨seller, _, buyer, _, key, _, relationship, _, hlink⟩ := h
  obtain rfl := Option.some.inj hlink
  exact ⟨rfl, rfl, rfl⟩

/-- A link stands for its two sides, its key and its relationship, wherever it stands. -/
theorem toOption_ofReferences (vocabulary : Vocabulary) (path : FieldPath)
    (entry : Template.LinkEntry)
    : (ofReferences vocabulary path entry).toOption = references? vocabulary entry := by
  simp only [ofReferences, references?, toOption_bind, toOption_pure, toOption_checkOptional,
    Vocabulary.toOption_reference, Relationship.toOption_ofLabel]

end Link

namespace LinkRule

variable {context : LinkContext} {path : FieldPath} {declaration : Template.LinkDeclaration}
  {link next final : Link}

/-- A section passes exactly when its list is not empty and all its items stand for something. -/
theorem fill_eq_iff {α β : Type} {missing : Fault} {check : Nat → α → Except Fault β}
    {read : α → Option β} (h : ∀ position item, (check position item).toOption = read item)
    {items : List α} {add : Link → List β → Link}
    : fill link missing check items add = (next, none)
      ↔ ∃ results, readNonempty? read items = some results ∧ add link results = next := by
  rw [fill, readNonempty?]
  split
  · simp
  · simp only [← Sequence.run_eq_iff h 0]
    cases Sequence.run check 0 items with
    | mk results fault => cases fault <;> simp

/-- The scope leaves a link as it is, provided that the node is one of its sides. -/
theorem apply_scope_eq_iff
    : apply context path declaration link .scope = (next, none)
      ↔ (context.node = link.buyer ∨ context.node = link.seller) ∧ link = next := by
  rw [apply]
  split
  next h => simp [h]
  next h => simp [h]

/-- The commodities of a link become those of its definitions, of which there must be one. -/
theorem apply_commodityDefs_eq_iff
    : apply context path declaration link .commodityDefs = (next, none)
      ↔ ∃ commodities,
          readNonempty?
              (fun definition => context.vocabulary.commodityNamed? definition.commodityType)
              declaration.commodityDefs
            = some commodities
          ∧ { link with commodities := commodities.foldl SortedSet.insert link.commodities }
            = next := by
  have h
      : ∀ position (definition : Template.CommodityDef),
          (context.vocabulary.commodity
              (((path.field "commodityDefs").index position).field "type")
              definition.commodityType).toOption
            = context.vocabulary.commodityNamed? definition.commodityType :=
    fun position definition => Vocabulary.toOption_commodity _ _ _
  rw [apply]
  exact fill_eq_iff h

/-- The reported properties of a link become the names of its definitions, of which there must be
one. -/
theorem apply_probeProperties_eq_iff
    : apply context path declaration link .probeProperties = (next, none)
      ↔ ∃ names,
          readNonempty? (fun property => nonBlank? property.name) declaration.probeProperties
            = some names
          ∧ { link with probeProperties := names.foldl SortedSet.insert link.probeProperties }
            = next := by
  rw [apply]
  exact fill_eq_iff (toOption_probePropertyName _)

/-- The propagations of a link become those of its definitions, of which there must be one. -/
theorem apply_entityProperties_eq_iff
    : apply context path declaration link .entityProperties = (next, none)
      ↔ ∃ propagations,
          readNonempty? (Propagation.declared? context.vocabulary) declaration.entityProperties
            = some propagations
          ∧ { link with propagations := link.propagations ++ propagations } = next := by
  rw [apply]
  exact fill_eq_iff (Propagation.toOption_ofProperty _ _)

/-- A link is left as it is, provided that no label of the node contradicts its own. -/
theorem apply_hostingConsistency_eq_iff
    : apply context path declaration link .hostingConsistency = (next, none)
      ↔ (∀ pair,
          link.label? context.node = some pair → context.labels.conflict? pair.1 pair.2 = none)
        ∧ link = next := by
  simp only [apply, Link.label?]
  cases link.declaredLabel? context.node with
  | none => simp
  | some declared => simp [and_comm]

theorem applyAll_cons_eq_ok_iff {rule : LinkRule} {rules : List LinkRule}
    : applyAll context path declaration (rule :: rules) link = .ok final
      ↔ ∃ next,
          rule.apply context path declaration link = (next, none)
          ∧ applyAll context path declaration rules next = .ok final := by
  simp only [applyAll, List.foldlM_cons, bind_eq_ok_iff]
  cases rule.apply context path declaration link with
  | mk next fault => cases fault <;> simp

end LinkRule

namespace Link

/-- A link entry is accepted exactly when it stands for a link whose label is no conflict. -/
theorem validate_eq_ok_iff {context : LinkContext} {position : Nat} {entry : Template.LinkEntry}
    {link : Link}
    : validate context position entry = .ok link
      ↔ declared? context.vocabulary context.node entry = some link
        ∧ ∀ pair,
            link.label? context.node = some pair
            → context.labels.conflict? pair.1 pair.2 = none := by
  have hreferences
      : ∀ base,
          ofReferences context.vocabulary (FieldPath.index [.field "externalLink"] position) entry
            = .ok base
          ↔ references? context.vocabulary entry = some base := by
    intro base
    rw [← toOption_eq_some_iff, toOption_ofReferences]
  simp only [validate, bind_eq_ok_iff, hreferences, LinkRule.all,
    LinkRule.applyAll_cons_eq_ok_iff, LinkRule.apply_scope_eq_iff,
    LinkRule.apply_commodityDefs_eq_iff, LinkRule.apply_probeProperties_eq_iff,
    LinkRule.apply_entityProperties_eq_iff, LinkRule.apply_hostingConsistency_eq_iff]
  simp only [declared?, Option.bind_eq_bind, Option.bind_eq_some_iff, Option.filter_eq_some_iff,
    decide_eq_true_eq]
  constructor
  · intro h
    obtain ⟨base, hbase, _, ⟨hscope, rfl⟩, _, ⟨commodities, hcommodities, rfl⟩, _, ⟨names, hnames,
      rfl⟩, _, ⟨propagations, hpropagations, rfl⟩, _, ⟨hlabel, rfl⟩, hlink⟩ := h
    obtain rfl := Except.ok.inj hlink
    obtain ⟨hc, hp, ht⟩ := sections_of_references? hbase
    refine ⟨⟨base, ⟨hbase, hscope⟩, commodities, hcommodities, names, hnames,
      propagations, hpropagations, ?_⟩, hlabel⟩
    simp only [hc, hp, ht, List.nil_append]
    rfl
  · intro h
    obtain ⟨⟨base, ⟨hbase, hscope⟩, commodities, hcommodities, names, hnames, propagations,
      hpropagations, hlink⟩, hlabel⟩ := h
    obtain rfl := Option.some.inj hlink
    obtain ⟨hc, hp, ht⟩ := sections_of_references? hbase
    refine ⟨base, hbase, _, ⟨hscope, rfl⟩, _, ⟨commodities, hcommodities, rfl⟩, _,
      ⟨names, hnames, rfl⟩, _, ⟨propagations, hpropagations, rfl⟩, _, ⟨?_, rfl⟩, ?_⟩
    · simp only [hc, hp, ht, List.nil_append]
      exact hlabel
    · simp only [hc, hp, ht, List.nil_append]
      rfl

/-- The labels before a link and the one of the link itself are those for the links after it. -/
theorem after_firsts {vocabulary : Vocabulary} {node : EntityType}
    {pairs : List (EntityType × Relationship)} {link : Link}
    (h : SingleValued (pairs ++ (link.label? node).toList))
    : LinkContext.after ⟨vocabulary, node, SortedMap.firsts pairs⟩ link
      = ⟨vocabulary, node, SortedMap.firsts (pairs ++ (link.label? node).toList)⟩ := by
  rw [LinkContext.after, label?]
  rw [label?] at h
  cases hd : link.declaredLabel? node with
  | none => simp
  | some label =>
      simp only [hd, Option.map_some, Option.toList_some] at h ⊢
      rw [SortedMap.insert_firsts h]

/-- The label of a link is no conflict with the labels before it exactly when it agrees with
them. -/
theorem forall_conflict?_eq_none_iff {node : EntityType}
    {pairs : List (EntityType × Relationship)} (h : SingleValued pairs) (link : Link)
    : (∀ pair,
        link.label? node = some pair
        → Labels.conflict? (SortedMap.firsts pairs) pair.1 pair.2 = none)
      ↔ SingleValued (pairs ++ (link.label? node).toList) := by
  cases link.label? node with
  | none => simp [h]
  | some pair =>
      simp [Labels.conflict?_eq_none_iff, SortedMap.find?_firsts_eq_some_iff h,
        singleValued_concat_iff h]

/-- Link entries are accepted exactly when each stands for a link and no seller gets two labels,
from the labels before them and from the links, by induction on the entries. -/
theorem validateFrom_eq_ok_iff {vocabulary : Vocabulary} {node : EntityType}
    {pairs : List (EntityType × Relationship)} (h : SingleValued pairs) (position : Nat)
    (entries : List Template.LinkEntry) {links : List Link}
    : validateFrom ⟨vocabulary, node, SortedMap.firsts pairs⟩ position entries = .ok links
      ↔ entries.mapM (declared? vocabulary node) = some links
        ∧ SingleValued (pairs ++ links.filterMap (label? node)) := by
  induction entries generalizing pairs position links with
  | nil =>
      simp only [validateFrom, Except.ok.injEq, List.mapM_nil]
      constructor
      · intro hi
        subst hi
        exact ⟨rfl, by simpa using h⟩
      · intro hi
        obtain ⟨hlinks, _⟩ := hi
        exact Option.some.inj hlinks
  | cons entry rest ih =>
      simp only [validateFrom, bind_eq_ok_iff, validate_eq_ok_iff,
        forall_conflict?_eq_none_iff h, pure_eq_ok_iff, List.mapM_cons, Option.bind_eq_bind,
        Option.bind_eq_some_iff]
      -- The link is checked against the labels before it, and those after it against its own too.
      constructor
      · intro hi
        obtain ⟨link, ⟨hlink, hs⟩, later, hlater, rfl⟩ := hi
        rw [after_firsts hs] at hlater
        obtain ⟨hrest, hall⟩ := (ih hs (position + 1)).mp hlater
        refine ⟨⟨link, hlink, later, hrest, rfl⟩, ?_⟩
        rwa [filterMap_label?_cons, ← List.append_assoc]
      · intro hi
        obtain ⟨⟨link, hlink, later, hrest, hlinks⟩, hall⟩ := hi
        obtain rfl := Option.some.inj hlinks
        rw [filterMap_label?_cons, ← List.append_assoc] at hall
        have hs := (singleValued_append_iff.mp hall).1
        refine ⟨link, ⟨hlink, hs⟩, later, ?_, rfl⟩
        rw [after_firsts hs]
        exact (ih hs (position + 1)).mpr ⟨hrest, hall⟩

end Link

end SupplyGraph
