import SupplyGraph.Compiler
import SupplyGraph.Proofs.Entry.Links
import SupplyGraph.Proofs.Entry.Purchases
import SupplyGraph.Proofs.Node.Joining

/-!
Declarations and the nodes that they make. An entry compiles exactly when its names resolve to a
declaration that gives no provider two labels; declarations one after the other make the node that
the nodes of each make together.
-/

namespace SupplyGraph

-----------------------------------------------------------------------------------------
-- What an entry declares
-----------------------------------------------------------------------------------------

/-- The entity type that the class of an entry names. -/
def Template.Entry.entityType? (vocabulary : Vocabulary) (entry : Template.Entry)
    : Option EntityType :=
  vocabulary.entityType? (Text.trim entry.templateClass)

/-- What an entry leaves in the templates of its node, if its kind has a known label. -/
def Template.Entry.record? (entry : Template.Entry) : Option TemplateMeta :=
  (readOptional? Labelled.parse? entry.templateType).map
    (fun kind => ⟨kind, entry.templatePriority⟩)

/-- A commodity that an entry sells, and whether it is keyed. -/
def Template.Commodity.sold? (vocabulary : Vocabulary) (commodity : Template.Commodity)
    : Option (CommodityType × Bool) :=
  (vocabulary.commodityNamed? commodity.commodityType).map
    (fun commodityType => (commodityType, commodity.key.isSome))

/-- What entries for one entity type declare, all names resolved. -/
structure Declaration where
  sold : List (CommodityType × Bool) := []
  bought : List Purchase := []
  links : List Link := []
  templates : List TemplateMeta := []

namespace Declaration

/-- One declaration behind another one. -/
instance : Append Declaration where
  append first second :=
    ⟨first.sold ++ second.sold, first.bought ++ second.bought, first.links ++ second.links,
      first.templates ++ second.templates⟩

/-- Every label that a declaration for an entity type gives, the purchases first. -/
def labels (declaration : Declaration) (entityType : EntityType)
    : List (EntityType × Relationship) :=
  declaration.bought.map Purchase.label ++ declaration.links.filterMap (Link.label? entityType)

/-- What hosting providers sell, and what goes over the links. -/
def hostedWares (declaration : Declaration) : List (EntityType × SortedSet CommodityType) :=
  (declaration.bought.filter (fun purchase => purchase.relationship.isHosting)).map Purchase.wares
    ++ declaration.links.map (fun link => (link.seller, link.commodities))

/-- The node that a declaration makes, every field filled from the lists on its own. -/
def node (declaration : Declaration) (entityType : EntityType) : Node where
  entityType
  sold := SortedSet.ofList (declaration.sold.map Prod.fst)
  keyedSold := SortedSet.ofList ((declaration.sold.filter Prod.snd).map Prod.fst)
  bought := SortedMap.gather (declaration.bought.map Purchase.wares)
  providerLabels := SortedMap.firsts (declaration.bought.map Purchase.label)
  cardinalities := SortedMap.firsts (declaration.bought.filterMap Purchase.bounds?)
  linkLabels := SortedMap.firsts (declaration.links.filterMap (Link.label? entityType))
  hosting := SortedMap.firsts (hostingPairs (declaration.labels entityType))
  hostedCommodities := SortedMap.gather declaration.hostedWares
  hostedProperties :=
    SortedMap.gather (declaration.links.map (fun link => (link.seller, link.probeProperties)))
  links := declaration.links
  templates := declaration.templates

-----------------------------------------------------------------------------------------
-- Declarations one behind the other
-----------------------------------------------------------------------------------------

variable {entityType : EntityType}

/-- Two declarations together state the labels of both. -/
theorem mem_labels_append (first second : Declaration) (pair : EntityType × Relationship)
    : pair ∈ (first ++ second).labels entityType
      ↔ pair ∈ first.labels entityType ∨ pair ∈ second.labels entityType := by
  change pair ∈ (first.bought ++ second.bought).map Purchase.label
      ++ (first.links ++ second.links).filterMap (Link.label? entityType) ↔ _
  simp only [labels, List.map_append, List.filterMap_append, List.mem_append]
  tauto

/-- Declarations one after the other make the extension of the first node by the second. -/
theorem node_append (first second : Declaration)
    : (first ++ second).node entityType
      = (first.node entityType).extend (second.node entityType) := by
  have hhosting
      : SortedMap.firsts (hostingPairs ((first ++ second).labels entityType))
        = SortedMap.firsts
            (hostingPairs (first.labels entityType)
              ++ hostingPairs (second.labels entityType)) := by
    -- The labels of the links of one declaration stand between the purchases of the two.
    apply SortedMap.firsts_congr (singleValued_hostingPairs _)
    intro pair
    obtain ⟨provider, label⟩ := pair
    simp only [List.mem_append, mem_hostingPairs, mem_labels_append, and_or_left]
  have hhosted
      : SortedMap.gather (first ++ second).hostedWares
        = SortedMap.gather (first.hostedWares ++ second.hostedWares) := by
    apply SortedMap.gather_congr
    intro pair
    change pair ∈ ((first.bought ++ second.bought).filter _).map _
        ++ (first.links ++ second.links).map _ ↔ _
    simp only [hostedWares, List.filter_append, List.map_append, List.mem_append]
    tauto
  have hsold
      : ∀ front back : List CommodityType,
          SortedSet.ofList (front ++ back) = SortedSet.ofList front ∪ SortedSet.ofList back := by
    intro front back
    ext value
    simp
  simp only [node, Node.extend, hhosting, hhosted, SortedMap.union_firsts,
    SortedMap.unionWith_gather, ← hsold, ← List.map_append, ← List.filter_append,
    ← List.filterMap_append]
  rfl

-----------------------------------------------------------------------------------------
-- The node that the parts of an entry make
-----------------------------------------------------------------------------------------

theorem hostingPairs_label? (node : EntityType) (link : Link)
    : hostingPairs (link.label? node).toList
      = if link.hosts node then [(link.seller, .hosting)] else [] := by
  rw [Link.hosts, Link.label?]
  rcases link.declaredLabel? node with _ | label
  · rfl
  · cases label <;> rfl

/-- The declaration with links more at its end. -/
def withLinks (declaration : Declaration) (links : List Link) : Declaration :=
  { declaration with links := declaration.links ++ links }

theorem labels_withLinks (declaration : Declaration) (links : List Link)
    : (declaration.withLinks links).labels entityType
      = declaration.labels entityType ++ links.filterMap (Link.label? entityType) := by
  simp [labels, withLinks]

/-- A link that brings no second label is entered like the links before it. -/
theorem addLink_node {declaration : Declaration} {link : Link}
    (h : SingleValued ((declaration.withLinks [link]).labels entityType))
    : (declaration.node entityType).addLink link
      = (declaration.withLinks [link]).node entityType := by
  rw [labels_withLinks, Link.filterMap_label?_cons, List.filterMap_nil, List.append_nil] at h
  have hhosting
      := singleValued_hostingPairs
          (declaration.labels entityType ++ (link.label? entityType).toList)
  rw [hostingPairs_append, hostingPairs_label?] at hhosting
  simp only [node, Node.addLink, Node.mk.injEq, labels_withLinks]
  simp only [true_and, and_true, withLinks, hostedWares, List.filterMap_append,
    Link.filterMap_label?_cons, List.filterMap_nil, List.append_nil, List.map_append,
    List.map_cons, List.map_nil, hostingPairs_append, hostingPairs_label?]
  refine ⟨?_, ?_, ?_, ?_⟩
  · cases hd : link.declaredLabel? entityType with
    | none => simp [Link.label?, hd]
    | some label =>
        have hl : SingleValued (declaration.links.filterMap (Link.label? entityType)
            ++ [(link.seller, label)]) := by
          refine h.of_subset (fun pair hm => ?_)
          simpa [labels, Link.label?, hd] using Or.inr (List.mem_append.mp hm)
        simp only [Link.label?, hd, Option.map_some, Option.toList_some]
        exact SortedMap.insert_firsts hl
  · change (if link.hosts entityType then _ else _) = _
    by_cases hh : link.hosts entityType
    · rw [if_pos hh] at hhosting ⊢
      rw [if_pos hh]
      exact SortedMap.insert_firsts hhosting
    · rw [if_neg hh, if_neg hh, List.append_nil]
  · rw [← List.append_assoc, SortedMap.gather_concat]
  · rw [SortedMap.gather_concat]

/-- Links that bring no second label make the node of the longer declaration, by induction on the
links. -/
theorem foldl_addLink_node (declaration : Declaration) {links : List Link}
    (h : SingleValued ((declaration.withLinks links).labels entityType))
    : links.foldl Node.addLink (declaration.node entityType)
      = (declaration.withLinks links).node entityType := by
  induction links generalizing declaration with
  | nil => simp [withLinks]
  | cons link rest ih =>
      have happend
          : declaration.withLinks (link :: rest)
            = (declaration.withLinks [link]).withLinks rest := by
        simp [withLinks]
      rw [happend] at h ⊢
      have hstep : SingleValued ((declaration.withLinks [link]).labels entityType) := by
        rw [labels_withLinks] at h
        exact (singleValued_append_iff.mp h).1
      rw [List.foldl_cons, addLink_node hstep, ih _ h]

/-- The parts of an entry make the node of its declaration. -/
theorem ofParts_eq_node {sold : List (CommodityType × Bool)} {bought : List Purchase}
    {links : List Link} {template : TemplateMeta}
    (h : SingleValued ((⟨sold, bought, links, [template]⟩ : Declaration).labels entityType))
    : Node.ofParts entityType (SortedSet.ofList (sold.map Prod.fst))
          (SortedSet.ofList ((sold.filter Prod.snd).map Prod.fst)) (Provision.gathered bought)
          links template
        = (⟨sold, bought, links, [template]⟩ : Declaration).node entityType := by
  have hbase
      : (⟨sold, bought, [], [template]⟩ : Declaration).node entityType
        = {
          entityType
          sold := SortedSet.ofList (sold.map Prod.fst)
          keyedSold := SortedSet.ofList ((sold.filter Prod.snd).map Prod.fst)
          bought := (Provision.gathered bought).bought
          providerLabels := (Provision.gathered bought).labels
          cardinalities := (Provision.gathered bought).cardinalities
          hosting := (Provision.gathered bought).hosting
          hostedCommodities := (Provision.gathered bought).hosted
          templates := [template] } := by
    simp only [node, labels, hostedWares, Provision.gathered, List.filterMap_nil, List.map_nil,
      List.append_nil]
    rfl
  have hlinks := foldl_addLink_node ⟨sold, bought, [], [template]⟩ h
  rw [hbase] at hlinks
  exact hlinks

-----------------------------------------------------------------------------------------
-- The labels of the node
-----------------------------------------------------------------------------------------

/-- The label maps of a node hold the labels of its declaration, where these do not contradict. -/
theorem hasLabel_node_iff {declaration : Declaration}
    (h : SingleValued (declaration.labels entityType)) {provider : EntityType}
    {label : Relationship}
    : (declaration.node entityType).HasLabel provider label
      ↔ (provider, label) ∈ declaration.labels entityType := by
  obtain ⟨hb, hl, _⟩ := singleValued_append_iff.mp h
  simp only [Node.HasLabel, node, SortedMap.find?_firsts_eq_some_iff hb,
    SortedMap.find?_firsts_eq_some_iff hl,
    SortedMap.find?_firsts_eq_some_iff (singleValued_hostingPairs _), mem_hostingPairs]
  constructor
  · intro hi
    rcases hi with hm | hm | ⟨rfl, hm⟩
    · exact List.mem_append_left _ hm
    · exact List.mem_append_right _ hm
    · exact hm
  · intro hm
    rcases List.mem_append.mp hm with hm | hm
    · exact Or.inl hm
    · exact Or.inr (Or.inl hm)

/-- The labels of a declaration hold in its node, unless they contradict each other. -/
theorem coherent_node {declaration : Declaration}
    (h : SingleValued (declaration.labels entityType))
    : (declaration.node entityType).Coherent :=
  fun provider first second hf hs =>
    h provider first second ((hasLabel_node_iff h).mp hf) ((hasLabel_node_iff h).mp hs)

/-- Two declarations together contradict nothing when neither contradicts itself and their nodes
agree. -/
theorem singleValued_labels_append_iff {first second : Declaration}
    : SingleValued ((first ++ second).labels entityType)
      ↔ SingleValued (first.labels entityType)
        ∧ SingleValued (second.labels entityType)
        ∧ Labels.Agree (first.node entityType).labels (second.node entityType).labels := by
  have hmembers
      : SingleValued ((first ++ second).labels entityType)
        ↔ SingleValued (first.labels entityType ++ second.labels entityType) := by
    simp only [SingleValued, mem_labels_append, List.mem_append]
  rw [hmembers, singleValued_append_iff]
  refine and_congr_right (fun hf => and_congr_right (fun hs => ?_))
  rw [Node.agree_labels_iff (coherent_node hf) (coherent_node hs)]
  simp only [hasLabel_node_iff hf, hasLabel_node_iff hs]

end Declaration

-----------------------------------------------------------------------------------------
-- Entries that compile are those that declare something without contradiction
-----------------------------------------------------------------------------------------

/-- What an entry declares and for which entity type, if all its names resolve. -/
def Template.Entry.declaration? (vocabulary : Vocabulary) (entry : Template.Entry)
    : Option (EntityType × Declaration) := do
  let entityType ← entry.entityType? vocabulary
  let record ← entry.record?
  let sold ← readNonempty? (Template.Commodity.sold? vocabulary) entry.commoditySold
  let bought ← entry.commodityBought.mapM (Purchase.declared? vocabulary)
  let links ← entry.externalLink.mapM (Link.declared? vocabulary entityType)
  return (entityType, ⟨sold, bought, links, [record]⟩)

/-- An entry declares something when each part of it does. -/
theorem Template.Entry.declaration?_eq_some_iff {vocabulary : Vocabulary}
    {entry : Template.Entry} {entityType : EntityType} {declaration : Declaration}
    : entry.declaration? vocabulary = some (entityType, declaration)
      ↔ entry.entityType? vocabulary = some entityType
        ∧ entry.record?.map (fun record => [record]) = some declaration.templates
        ∧ readNonempty? (Template.Commodity.sold? vocabulary) entry.commoditySold
          = some declaration.sold
        ∧ entry.commodityBought.mapM (Purchase.declared? vocabulary) = some declaration.bought
        ∧ entry.externalLink.mapM (Link.declared? vocabulary entityType)
          = some declaration.links := by
  simp only [declaration?, Option.bind_eq_bind, Option.bind_eq_some_iff, Option.pure_def,
    Option.some.injEq, Prod.mk.injEq, Option.map_eq_some_iff]
  constructor
  · intro h
    obtain ⟨_, ht, record, hr, sold, hs, bought, hb, links, hl, rfl, rfl⟩ := h
    exact ⟨ht, ⟨record, hr, rfl⟩, hs, hb, hl⟩
  · obtain ⟨sold, bought, links, templates⟩ := declaration
    intro h
    obtain ⟨ht, ⟨record, hr, rfl⟩, hs, hb, hl⟩ := h
    exact ⟨_, ht, record, hr, _, hs, _, hb, _, hl, rfl, rfl⟩

/-- An entry must sell something, and all that it sells must have a type. -/
theorem Trade.toOption_soldOf (vocabulary : Vocabulary) (sold : List Template.Commodity)
    : (Trade.soldOf vocabulary sold).toOption
      = readNonempty? (Template.Commodity.sold? vocabulary) sold := by
  rw [soldOf, readNonempty?]
  split
  · rfl
  · refine Sequence.toOption_collect (fun position commodity => ?_) sold
    simp only [toOption_bind, toOption_pure, toOption_resolve]
    exact Option.map_eq_bind.symm

/-- An entry trades exactly if all its commodities and groups stand for something. -/
theorem Trade.ofEntry_eq_ok_iff {vocabulary : Vocabulary} {entry : Template.Entry}
    {trade : Trade}
    : Trade.ofEntry vocabulary entry = .ok trade
      ↔ ∃ sold,
          readNonempty? (Template.Commodity.sold? vocabulary) entry.commoditySold = some sold
          ∧ ∃ bought,
              entry.commodityBought.mapM (Purchase.declared? vocabulary) = some bought
              ∧ (⟨SortedSet.ofList (sold.map Prod.fst),
                  SortedSet.ofList ((sold.filter Prod.snd).map Prod.fst), bought⟩ : Trade)
                = trade := by
  simp only [Trade.ofEntry, bind_eq_ok_iff, pure_eq_ok_iff]
  simp only [← toOption_eq_some_iff, Trade.toOption_soldOf,
    Sequence.toOption_collect (Purchase.toOption_ofGroup vocabulary)]

/-- An entry compiles exactly when it declares something and gives no provider two labels. -/
theorem Node.ofEntry_eq_ok_iff {vocabulary : Vocabulary} {entry : Template.Entry} {node : Node}
    : Node.ofEntry vocabulary entry = .ok node
      ↔ ∃ entityType declaration,
          entry.declaration? vocabulary = some (entityType, declaration)
          ∧ SingleValued (declaration.labels entityType)
          ∧ declaration.node entityType = node := by
  have hclass
      : ∀ entityType,
          vocabulary.entity [.field "templateClass"] (Text.trim entry.templateClass)
            = .ok entityType
          ↔ entry.entityType? vocabulary = some entityType := by
    intro entityType
    rw [← toOption_eq_some_iff, Vocabulary.toOption_entity]
    rfl
  have hkind
      : ∀ kind,
          checkOptional (TemplateKind.ofLabel [.field "templateType"]) entry.templateType = .ok kind
          ↔ readOptional? Labelled.parse? entry.templateType = some kind := by
    intro kind
    simp only [← toOption_eq_some_iff, toOption_checkOptional, TemplateKind.toOption_ofLabel]
  simp only [Node.ofEntry, bind_eq_ok_iff, pure_eq_ok_iff, hclass, hkind,
    Trade.ofEntry_eq_ok_iff, Provision.ofPurchases_eq_ok_iff,
    Template.Entry.declaration?_eq_some_iff, Template.Entry.record?, Option.map_map,
    Option.map_eq_some_iff, Function.comp_apply]
  constructor
  · intro h
    obtain ⟨entityType, ht, kind, hk, _, ⟨sold, hsold, bought, hbought, rfl⟩, _, ⟨hs, rfl⟩, links,
      hlinks, rfl⟩ := h
    obtain ⟨hlinks, hall⟩ := (Link.validateFrom_eq_ok_iff hs 0 _).mp hlinks
    exact ⟨entityType, ⟨sold, bought, links, [⟨kind, entry.templatePriority⟩]⟩,
      ⟨ht, ⟨kind, hk, rfl⟩, hsold, hbought, hlinks⟩, hall,
      (Declaration.ofParts_eq_node hall).symm⟩
  · intro h
    obtain ⟨entityType, ⟨sold, bought, links, _⟩, ⟨ht, ⟨kind, hk, rfl⟩, hsold, hbought, hlinks⟩,
      hall, rfl⟩ := h
    -- The purchases are checked before there are any links.
    have hs := (singleValued_append_iff.mp hall).1
    exact ⟨entityType, ht, kind, hk, _, ⟨sold, hsold, bought, hbought, rfl⟩, _, ⟨hs, rfl⟩, links,
      (Link.validateFrom_eq_ok_iff hs 0 _).mpr ⟨hlinks, hall⟩, Declaration.ofParts_eq_node hall⟩

end SupplyGraph
