import SupplyGraph.Proofs.Compile.DerivedFields
import SupplyGraph.Proofs.Entry.Completeness

/-!
Complete chains. However many entries are merged into a node of a compiled chain, nothing is missing
in it that the checks ask for, and nothing occurs in it that no name of the document means.
-/

namespace SupplyGraph

namespace Node

/-- The node sells something, and its cardinalities, links and properties say something each. -/
structure IsComplete (node : Node) : Prop where
  sells : node.sold ≠ ∅
  keyed : ∀ commodity ∈ node.keyedSold, commodity ∈ node.sold
  bounded
    : ∀ provider cardinality,
        node.cardinalities.find? provider = some cardinality → cardinality.IsBounded
  links : ∀ link ∈ node.links, link.IsComplete node.entityType
  propertyNames : ∀ provider, ∀ name ∈ node.hostedProperties.setAt provider, Text.IsTrimmed name

/-- The entity types and commodity types in a node: what it is, what its sets and maps have as
members and as keys, and what its links use. -/
inductive Uses (node : Node) : Term → Prop where
  | itself : Uses node (.entity node.entityType)
  | sold {commodity : CommodityType} (h : commodity ∈ node.sold)
    : Uses node (.commodity commodity)
  | keyedSold {commodity : CommodityType} (h : commodity ∈ node.keyedSold)
    : Uses node (.commodity commodity)
  | boughtFrom {provider : EntityType} (h : provider ∈ node.bought.keys)
    : Uses node (.entity provider)
  | bought {provider : EntityType} {commodity : CommodityType}
    (h : commodity ∈ node.bought.setAt provider)
    : Uses node (.commodity commodity)
  | labelled {provider : EntityType} (h : provider ∈ node.providerLabels.keys)
    : Uses node (.entity provider)
  | counted {provider : EntityType} (h : provider ∈ node.cardinalities.keys)
    : Uses node (.entity provider)
  | linked {seller : EntityType} (h : seller ∈ node.linkLabels.keys) : Uses node (.entity seller)
  | hosting {provider : EntityType} (h : provider ∈ node.hosting.keys)
    : Uses node (.entity provider)
  | hostedFrom {provider : EntityType} (h : provider ∈ node.hostedCommodities.keys)
    : Uses node (.entity provider)
  | hosted {provider : EntityType} {commodity : CommodityType}
    (h : commodity ∈ node.hostedCommodities.setAt provider)
    : Uses node (.commodity commodity)
  | propertiesFrom {provider : EntityType} (h : provider ∈ node.hostedProperties.keys)
    : Uses node (.entity provider)
  | link {link : Link} {term : Term} (h : link ∈ node.links) (hu : link.Uses term)
    : Uses node term

end Node

-----------------------------------------------------------------------------------------
-- The node of a complete declaration
-----------------------------------------------------------------------------------------

namespace Declaration

variable {vocabulary : Vocabulary} {names : List Name} {entityType : EntityType}
  {declaration : Declaration}

/-- The node of a complete declaration is complete. -/
theorem isComplete_node (h : declaration.IsComplete vocabulary names entityType)
    : (declaration.node entityType).IsComplete := by
  constructor
  · exact SortedSet.ofList_ne_empty (by simpa using h.sells)
  · intro commodity hkeyed
    simp only [node, SortedSet.mem_ofList, List.mem_map] at hkeyed ⊢
    obtain ⟨pair, hpair, rfl⟩ := hkeyed
    exact ⟨pair, (List.mem_filter.mp hpair).1, rfl⟩
  · intro provider cardinality hfound
    have hpair := mem_of_lookupEntry ((SortedMap.find?_firsts _ _).symm.trans hfound)
    obtain ⟨purchase, hpurchase, hbounds⟩ := List.mem_filterMap.mp hpair
    obtain ⟨_, hcardinality, hsame⟩ := Option.map_eq_some_iff.mp hbounds
    obtain ⟨_, rfl⟩ := Prod.mk.inj hsame
    exact (h.bought purchase hpurchase).bounded _ hcardinality
  · exact fun link hlink => (h.links link hlink).1
  · intro provider name hname
    obtain ⟨link, hlink, _, hmember⟩ :=
      (mem_setAt_gather_links Link.probeProperties declaration.links provider name).mp hname
    exact (h.links link hlink).1.propertyNames name hmember

/-- A provider with a label has a purchase, and so a name. -/
theorem means_of_mem_providerLabels (h : declaration.IsComplete vocabulary names entityType)
    {provider : EntityType} (hm : provider ∈ (declaration.node entityType).providerLabels.keys)
    : vocabulary.Means names (.entity provider) := by
  obtain ⟨_, hpair⟩ := (SortedMap.mem_keys_firsts _ provider).mp hm
  obtain ⟨purchase, hpurchase, rfl, _⟩ := mem_map_label.mp hpair
  exact (h.bought purchase hpurchase).provider

/-- Every bought commodity was bought by one of the purchases, and so its name is written there. -/
theorem means_of_mem_bought (h : declaration.IsComplete vocabulary names entityType)
    {provider : EntityType} {commodity : CommodityType}
    (hm : commodity ∈ (declaration.node entityType).bought.setAt provider)
    : vocabulary.Means names (.commodity commodity) := by
  obtain ⟨_, hpair, hmember⟩ := (SortedMap.mem_setAt_gather _ provider commodity).mp hm
  obtain ⟨purchase, hpurchase, _, rfl⟩ := mem_map_wares.mp hpair
  exact (h.bought purchase hpurchase).commodities commodity hmember

/-- Whatever occurs in the node occurs in a purchase or in a link, as the other maps follow from
these. -/
theorem means_of_uses_node (h : declaration.IsComplete vocabulary names entityType)
    (hderived : (declaration.node entityType).Derived) {term : Term}
    (hu : (declaration.node entityType).Uses term)
    : vocabulary.Means names term := by
  have hlinked
      : ∀ seller label,
          (declaration.node entityType).linkLabels.find? seller = some label
          → vocabulary.Means names (.entity seller) := by
    intro seller label hfound
    obtain ⟨link, hlink, _, rfl, _⟩ := (hderived.linkLabels seller label).mp hfound
    exact (h.links link hlink).2 _ .seller
  have hlabelled
      : ∀ provider label,
          (declaration.node entityType).providerLabels.find? provider = some label
          → vocabulary.Means names (.entity provider) := by
    intro provider label hfound
    refine means_of_mem_providerLabels h ((SortedMap.mem_keys _ provider).mpr ?_)
    rw [hfound]
    rfl
  cases hu with
  | itself => exact h.named
  | sold hm =>
      obtain ⟨pair, hpair, rfl⟩ := List.mem_map.mp ((SortedSet.mem_ofList _ _).mp hm)
      exact h.sold pair hpair
  | keyedSold hm =>
      obtain ⟨pair, hpair, rfl⟩ := List.mem_map.mp ((SortedSet.mem_ofList _ _).mp hm)
      exact h.sold pair (List.mem_filter.mp hpair).1
  | boughtFrom hm => exact means_of_mem_providerLabels h ((hderived.boughtKeys _).mp hm)
  | bought hm => exact means_of_mem_bought h hm
  | labelled hm => exact means_of_mem_providerLabels h hm
  | counted hm => exact means_of_mem_providerLabels h (hderived.cardinalityKeys _ hm)
  | linked hm =>
      obtain ⟨label, hlabel⟩ := Option.isSome_iff_exists.mp ((SortedMap.mem_keys _ _).mp hm)
      exact hlinked _ label hlabel
  | hosting hm =>
      obtain ⟨label, hlabel⟩ := Option.isSome_iff_exists.mp ((SortedMap.mem_keys _ _).mp hm)
      rcases ((hderived.hosting _ label).mp hlabel).2 with hprovider | hseller
      · exact hlabelled _ _ hprovider
      · exact hlinked _ _ hseller
  | hostedFrom hm =>
      rcases (hderived.hostedKeys _).mp hm with hprovider | ⟨link, hlink, rfl⟩
      · exact hlabelled _ _ hprovider
      · exact (h.links link hlink).2 _ .seller
  | hosted hm =>
      rcases (hderived.hostedMembers _ _).mp hm with ⟨_, hbought⟩ | ⟨link, hlink, _, hmember⟩
      · exact means_of_mem_bought h hbought
      · exact (h.links link hlink).2 _ (.commodity hmember)
  | propertiesFrom hm =>
      obtain ⟨link, hlink, rfl⟩ := (hderived.propertyKeys _).mp hm
      exact (h.links link hlink).2 _ .seller
  | link hlink hu => exact (h.links _ hlink).2 _ hu

end Declaration

-----------------------------------------------------------------------------------------
-- The nodes of a chain
-----------------------------------------------------------------------------------------

variable {vocabulary : Vocabulary}

/-- A node of a compiled chain is made by a declaration with every property that the declarations of
the entries have and that is kept when they are put together. -/
theorem exists_declaration_node? {document : Template.Document} {chain : Chain}
    {entityType : EntityType} {node : Node} {motive : Declaration → Prop}
    (entries
      : ∀ entry ∈ document.entries,
          ∀ declaration,
            entry.declaration? vocabulary = some (entityType, declaration) → motive declaration)
    (append : ∀ first second, motive first → motive second → motive (first ++ second))
    (h : compile vocabulary document = .ok chain) (hn : chain.node? entityType = some node)
    : ∃ declaration, motive declaration ∧ declaration.node entityType = node := by
  rw [node?_eq_join? h] at hn
  have hsole
      : ∀ sole ∈ soleNodes vocabulary entityType document.entries,
          ∃ declaration, motive declaration ∧ declaration.node entityType = sole := by
    intro sole hm
    obtain ⟨htype, _⟩ := mem_soleNodes hm
    obtain ⟨entry, hentry, hnode⟩ := List.mem_filterMap.mp hm
    obtain ⟨found, declaration, hdeclared, _, rfl⟩ :=
      Node.ofEntry_eq_ok_iff.mp (soleNode?_eq_some_iff.mp hnode)
    obtain rfl : found = entityType := htype
    exact ⟨declaration, entries entry (List.mem_filter.mp hentry).1 declaration hdeclared, rfl⟩
  refine Node.join?_induction (motive := fun nodes joined =>
    (∀ sole ∈ nodes, ∃ declaration, motive declaration ∧ declaration.node entityType = sole)
    → ∃ declaration, motive declaration ∧ declaration.node entityType = joined) ?_ ?_ hn hsole
  · intro sole hall
    exact hall sole (by simp)
  · intro nodes joined sole _ ih hall
    obtain ⟨first, hfirst, rfl⟩ := ih (fun other ho => hall other (List.mem_append_left _ ho))
    obtain ⟨second, hsecond, rfl⟩ := hall sole (by simp)
    exact ⟨first ++ second, append first second hfirst hsecond,
      Declaration.node_append first second⟩

/-- Every node of a compiled chain is complete and is found under its own entity type, and every
entity type and commodity type in it is what a name of the document means. -/
theorem compile_complete {document : Template.Document} {chain : Chain} {entityType : EntityType}
    {node : Node} (h : compile vocabulary document = .ok chain)
    (hn : chain.node? entityType = some node)
    : node.entityType = entityType
      ∧ node.IsComplete
      ∧ ∀ term, node.Uses term → vocabulary.Means document.mentions term := by
  have hdeclared := isDeclared_node? h hn
  obtain ⟨declaration, hcomplete, rfl⟩ :=
    exists_declaration_node?
      (fun entry hentry declaration hread =>
        entry.isComplete_of_declaration? hread
          (Template.mentions_subset (List.Subset.refl document.mentions) hentry))
      (fun _ _ hfirst hsecond => hfirst.append hsecond) h hn
  exact ⟨hdeclared.entityType, Declaration.isComplete_node hcomplete,
    fun _ hu => Declaration.means_of_uses_node hcomplete hdeclared.derived hu⟩

theorem compile_complete_hostedMachine
    : ∃ chain node,
        compile .standard ⟨[hostedMachine, hostedMachine]⟩ = .ok chain
        ∧ chain.node? .virtualMachine = some node
        ∧ node.links.length = 2
        ∧ node.IsComplete
        ∧ Vocabulary.standard.Means
            (Template.Document.mentions ⟨[hostedMachine, hostedMachine]⟩)
            (.entity .virtualMachine) := by
  have h
      : ((compile .standard ⟨[hostedMachine, hostedMachine]⟩).toOption.bind
          (fun chain => chain.node? .virtualMachine)).map (fun node => node.links.length)
        = some 2 := by
    decide +kernel
  obtain ⟨node, hnode, hlength⟩ := Option.map_eq_some_iff.mp h
  obtain ⟨chain, hchain, hnode⟩ := Option.bind_eq_some_iff.mp hnode
  have hcompile := toOption_eq_some_iff.mp hchain
  obtain ⟨htype, hcomplete, hmeans⟩ := compile_complete hcompile hnode
  refine ⟨chain, node, hcompile, hnode, hlength, hcomplete, hmeans _ ?_⟩
  rw [← htype]
  exact .itself

end SupplyGraph
