import SupplyGraph.Proofs.Compile.Union

/-!
Fields of a node that follow from the others. Three maps are filled in one go and then merged on
their own, but in a compiled chain they still say what the purchases and the links of the node say.
-/

namespace SupplyGraph

-----------------------------------------------------------------------------------------
-- What follows from purchases and links
-----------------------------------------------------------------------------------------

namespace Node

/-- The labels and the hosting maps say what the purchases and the links of the node say. -/
structure Derived (node : Node) : Prop where
  boughtKeys : ∀ provider, provider ∈ node.bought.keys ↔ provider ∈ node.providerLabels.keys
  cardinalityKeys
    : ∀ provider, provider ∈ node.cardinalities.keys → provider ∈ node.providerLabels.keys
  linkLabels
    : ∀ seller label,
        node.linkLabels.find? seller = some label
        ↔ ∃ link ∈ node.links,
            link.buyer = node.entityType ∧ link.seller = seller ∧ link.relationship = some label
  linksAgree
    : ∀ first ∈ node.links,
        ∀ second ∈ node.links,
          first.buyer = node.entityType
          → second.buyer = node.entityType
          → first.seller = second.seller
          → ∀ left right,
              first.relationship = some left → second.relationship = some right → left = right
  labelsAgree
    : ∀ provider left right,
        node.providerLabels.find? provider = some left
        → node.linkLabels.find? provider = some right
        → left = right
  hosting
    : ∀ provider label,
        node.hosting.find? provider = some label
        ↔ label = .hosting
          ∧ (node.providerLabels.find? provider = some .hosting
            ∨ node.linkLabels.find? provider = some .hosting)
  hostedKeys
    : ∀ provider,
        provider ∈ node.hostedCommodities.keys
        ↔ node.providerLabels.find? provider = some .hosting
          ∨ ∃ link ∈ node.links, link.seller = provider
  hostedMembers
    : ∀ provider commodity,
        commodity ∈ node.hostedCommodities.setAt provider
        ↔ (node.providerLabels.find? provider = some .hosting
            ∧ commodity ∈ node.bought.setAt provider)
          ∨ ∃ link ∈ node.links, link.seller = provider ∧ commodity ∈ link.commodities
  propertyKeys
    : ∀ provider,
        provider ∈ node.hostedProperties.keys ↔ ∃ link ∈ node.links, link.seller = provider
  propertyMembers
    : ∀ provider name,
        name ∈ node.hostedProperties.setAt provider
        ↔ ∃ link ∈ node.links, link.seller = provider ∧ name ∈ link.probeProperties

/-- Nodes with the same purchases and links differ in no field that follows from them. -/
theorem Derived.unique {node other : Node} (hn : node.Derived) (ho : other.Derived)
    (h
      : other = { node with
          linkLabels := other.linkLabels
          hosting := other.hosting
          hostedCommodities := other.hostedCommodities
          hostedProperties := other.hostedProperties })
    : other = node := by
  have htype : other.entityType = node.entityType := by rw [h]
  have hbought : other.bought = node.bought := by rw [h]
  have hproviders : other.providerLabels = node.providerLabels := by rw [h]
  have hlinks : other.links = node.links := by rw [h]
  have hlinkLabels : other.linkLabels = node.linkLabels := by
    ext seller : 1
    apply Option.ext
    intro label
    rw [ho.linkLabels, hn.linkLabels, htype, hlinks]
  have hhosting : other.hosting = node.hosting := by
    ext provider : 1
    apply Option.ext
    intro label
    rw [ho.hosting, hn.hosting, hproviders, hlinkLabels]
  have hhosted : other.hostedCommodities = node.hostedCommodities := by
    apply SortedMap.ext_sets
    · intro provider
      rw [ho.hostedKeys, hn.hostedKeys, hproviders, hlinks]
    · intro provider commodity
      rw [ho.hostedMembers, hn.hostedMembers, hproviders, hbought, hlinks]
  have hproperties : other.hostedProperties = node.hostedProperties := by
    apply SortedMap.ext_sets
    · intro provider
      rw [ho.propertyKeys, hn.propertyKeys, hlinks]
    · intro provider name
      rw [ho.propertyMembers, hn.propertyMembers, hlinks]
  rw [h, hlinkLabels, hhosting, hhosted, hproperties]

end Node

-----------------------------------------------------------------------------------------
-- The node of a declaration
-----------------------------------------------------------------------------------------

namespace Declaration

variable {entityType : EntityType}

/-- A link gives its seller a label exactly when the node is its buyer and it states one. -/
theorem mem_filterMap_label? {links : List Link} {seller : EntityType} {label : Relationship}
    : (seller, label) ∈ links.filterMap (Link.label? entityType)
      ↔ ∃ link ∈ links,
          link.buyer = entityType ∧ link.seller = seller ∧ link.relationship = some label := by
  simp only [List.mem_filterMap, Link.label?, Link.declaredLabel?, Option.map_eq_some_iff,
    Option.ite_none_right_eq_some, Prod.mk.injEq]
  constructor
  · intro h
    obtain ⟨link, hm, _, ⟨hb, hr⟩, hs, rfl⟩ := h
    exact ⟨link, hm, hb, hs, hr⟩
  · intro h
    obtain ⟨link, hm, hb, hs, hr⟩ := h
    exact ⟨link, hm, label, ⟨hb, hr⟩, hs, rfl⟩

/-- The labels of purchases are those of any purchase from the provider. -/
theorem mem_map_label {purchases : List Purchase} {provider : EntityType} {label : Relationship}
    : (provider, label) ∈ purchases.map Purchase.label
      ↔ ∃ purchase ∈ purchases, purchase.provider = provider ∧ purchase.relationship = label := by
  simp [Purchase.label]

theorem mem_map_wares {purchases : List Purchase} {provider : EntityType}
    {commodities : SortedSet CommodityType}
    : (provider, commodities) ∈ purchases.map Purchase.wares
      ↔ ∃ purchase ∈ purchases,
          purchase.provider = provider ∧ purchase.commodities = commodities := by
  simp [Purchase.wares]

/-- What hosting providers sell is all that is bought from them, as they have no other label. -/
theorem mem_hosting_wares {purchases : List Purchase}
    (h : SingleValued (purchases.map Purchase.label)) {provider : EntityType}
    {commodities : SortedSet CommodityType}
    : (provider, commodities)
          ∈ (purchases.filter (fun purchase => purchase.relationship.isHosting)).map Purchase.wares
      ↔ (provider, .hosting) ∈ purchases.map Purchase.label
        ∧ (provider, commodities) ∈ purchases.map Purchase.wares := by
  simp only [mem_map_wares, mem_map_label, List.mem_filter, Relationship.isHosting,
    decide_eq_true_eq]
  constructor
  · intro hi
    obtain ⟨purchase, ⟨hm, hr⟩, hp, hc⟩ := hi
    exact ⟨⟨purchase, hm, hp, hr⟩, purchase, hm, hp, hc⟩
  · intro hi
    obtain ⟨hosting, purchase, hm, hp, hc⟩ := hi
    refine ⟨purchase, ⟨hm, ?_⟩, hp, hc⟩
    exact h provider _ _ (mem_map_label.mpr ⟨purchase, hm, hp, rfl⟩) (mem_map_label.mpr hosting)

section Links

variable {α : Type} [Key α] (part : Link → SortedSet α) (links : List Link) (seller : EntityType)

/-- Sets gathered from links have the sellers of the links as keys. -/
theorem mem_keys_gather_links
    : seller ∈ (SortedMap.gather (links.map (fun link => (link.seller, part link)))).keys
      ↔ ∃ link ∈ links, link.seller = seller := by
  simp only [SortedMap.mem_keys_gather, List.mem_map, Prod.mk.injEq]
  constructor
  · intro h
    obtain ⟨_, link, hm, hs, _⟩ := h
    exact ⟨link, hm, hs⟩
  · intro h
    obtain ⟨link, hm, hs⟩ := h
    exact ⟨_, link, hm, hs, rfl⟩

/-- A seller has the members that the sets of its links have. -/
theorem mem_setAt_gather_links (value : α)
    : value ∈ (SortedMap.gather (links.map (fun link => (link.seller, part link)))).setAt seller
      ↔ ∃ link ∈ links, link.seller = seller ∧ value ∈ part link := by
  simp only [SortedMap.mem_setAt_gather, List.mem_map, Prod.mk.injEq]
  constructor
  · intro h
    obtain ⟨_, ⟨link, hm, hs, rfl⟩, hvalue⟩ := h
    exact ⟨link, hm, hs, hvalue⟩
  · intro h
    obtain ⟨link, hm, hs, hvalue⟩ := h
    exact ⟨_, ⟨link, hm, hs, rfl⟩, hvalue⟩

end Links

/-- The fields of the node of a declaration follow, since every label is found in one way only. -/
theorem derived_node {declaration : Declaration}
    (h : SingleValued (declaration.labels entityType))
    : (declaration.node entityType).Derived := by
  -- No label is dropped on the way into the maps, since there are no two for one provider.
  obtain ⟨hb, hl, hc⟩ := singleValued_append_iff.mp h
  have hproviders
      : ∀ provider label,
          (declaration.node entityType).providerLabels.find? provider = some label
          ↔ (provider, label) ∈ declaration.bought.map Purchase.label :=
    SortedMap.find?_firsts_eq_some_iff hb
  have hlinks
      : ∀ seller label,
          (declaration.node entityType).linkLabels.find? seller = some label
          ↔ (seller, label) ∈ declaration.links.filterMap (Link.label? entityType) :=
    SortedMap.find?_firsts_eq_some_iff hl
  constructor
  · intro provider
    simp only [node, SortedMap.mem_keys_gather, SortedMap.mem_keys_firsts, mem_map_wares,
      mem_map_label]
    constructor
    · intro hi
      obtain ⟨_, purchase, hm, hp, _⟩ := hi
      exact ⟨_, purchase, hm, hp, rfl⟩
    · intro hi
      obtain ⟨_, purchase, hm, hp, _⟩ := hi
      exact ⟨_, purchase, hm, hp, rfl⟩
  · intro provider
    simp only [node, SortedMap.mem_keys_firsts, mem_map_label, List.mem_filterMap,
      Purchase.bounds?, Option.map_eq_some_iff]
    intro hi
    obtain ⟨_, purchase, hm, _, _, hp⟩ := hi
    exact ⟨_, purchase, hm, congrArg Prod.fst hp, rfl⟩
  · intro seller label
    exact (hlinks seller label).trans mem_filterMap_label?
  · intro first hf second hs hfb hsb hsellers left right hleft hright
    exact hl first.seller left right (mem_filterMap_label?.mpr ⟨first, hf, hfb, rfl, hleft⟩)
      (mem_filterMap_label?.mpr ⟨second, hs, hsb, hsellers.symm, hright⟩)
  · intro provider left right hleft hright
    exact hc provider left right ((hproviders provider left).mp hleft)
      ((hlinks provider right).mp hright)
  · intro provider label
    rw [hproviders, hlinks, ← List.mem_append]
    exact (SortedMap.find?_firsts_eq_some_iff (singleValued_hostingPairs _) provider label).trans
      mem_hostingPairs
  · intro provider
    -- A provider with a label has a purchase, so that something is bought from it.
    have hbought
        : (provider, .hosting) ∈ declaration.bought.map Purchase.label
          → ∃ commodities, (provider, commodities) ∈ declaration.bought.map Purchase.wares := by
      intro hm
      obtain ⟨purchase, hm, hp, _⟩ := mem_map_label.mp hm
      exact ⟨_, mem_map_wares.mpr ⟨purchase, hm, hp, rfl⟩⟩
    rw [hproviders]
    simp only [node, hostedWares, ← SortedMap.unionWith_gather, SortedMap.mem_keys_unionWith]
    refine or_congr ?_ (mem_keys_gather_links Link.commodities declaration.links provider)
    simp only [SortedMap.mem_keys_gather, mem_hosting_wares hb, exists_and_left,
      and_iff_left_of_imp hbought]
  · intro provider commodity
    rw [hproviders]
    simp only [node, hostedWares, ← SortedMap.unionWith_gather, SortedMap.mem_setAt_unionWith]
    refine or_congr ?_
      (mem_setAt_gather_links Link.commodities declaration.links provider commodity)
    simp only [SortedMap.mem_setAt_gather, mem_hosting_wares hb, and_assoc, exists_and_left]
  · intro provider
    exact mem_keys_gather_links Link.probeProperties declaration.links provider
  · intro provider name
    exact mem_setAt_gather_links Link.probeProperties declaration.links provider name

end Declaration

-----------------------------------------------------------------------------------------
-- The nodes of a chain
-----------------------------------------------------------------------------------------

namespace Node

/-- The node is made by a declaration for the entity type that gives no provider two labels. -/
def IsDeclared (entityType : EntityType) (node : Node) : Prop :=
  ∃ declaration : Declaration,
    SingleValued (declaration.labels entityType) ∧ declaration.node entityType = node

theorem IsDeclared.entityType {entityType : EntityType} {node : Node}
    (h : node.IsDeclared entityType)
    : node.entityType = entityType := by
  obtain ⟨declaration, _, rfl⟩ := h
  rfl

theorem IsDeclared.coherent {entityType : EntityType} {node : Node}
    (h : node.IsDeclared entityType)
    : node.Coherent := by
  obtain ⟨declaration, hs, rfl⟩ := h
  exact Declaration.coherent_node hs

/-- A declared node has its derived fields, as every declaration gives them. -/
theorem IsDeclared.derived {entityType : EntityType} {node : Node}
    (h : node.IsDeclared entityType)
    : node.Derived := by
  obtain ⟨declaration, hs, rfl⟩ := h
  exact Declaration.derived_node hs

/-- Nodes that agree are together made by their declarations, one behind the other. -/
theorem IsDeclared.extend {entityType : EntityType} {node other : Node}
    (hn : node.IsDeclared entityType) (ho : other.IsDeclared entityType)
    (ha : Labels.Agree node.labels other.labels)
    : (node.extend other).IsDeclared entityType := by
  obtain ⟨first, hf, rfl⟩ := hn
  obtain ⟨second, hs, rfl⟩ := ho
  exact ⟨first ++ second, Declaration.singleValued_labels_append_iff.mpr ⟨hf, hs, ha⟩,
    Declaration.node_append first second⟩

/-- Joined nodes that agree are made by a declaration, as each of them is. -/
theorem isDeclared_join? {entityType : EntityType} {nodes : List Node} {joined : Node}
    (h : join? nodes = some joined) (hd : ∀ node ∈ nodes, node.IsDeclared entityType)
    (ha : nodes.Pairwise (fun first second => Labels.Agree first.labels second.labels))
    : joined.IsDeclared entityType := by
  refine join?_induction (motive := fun nodes joined =>
    (∀ node ∈ nodes, node.IsDeclared entityType)
    → nodes.Pairwise (fun first second => Labels.Agree first.labels second.labels)
    → joined.IsDeclared entityType) ?_ ?_ h hd ha
  · intro node hd _
    exact hd node (by simp)
  · intro nodes joined node hj ih hd ha
    have hjoined
        := ih (fun other ho => hd other (List.mem_append_left _ ho)) (List.pairwise_append.mp ha).1
    exact hjoined.extend (hd node (by simp)) (agree_labels_join? hj ha)

end Node

variable {vocabulary : Vocabulary}

/-- The node of an entry is declared by the entry. -/
theorem isDeclared_soleNode {entry : Template.Entry} {node : Node}
    (h : soleNode? vocabulary entry = some node)
    : node.IsDeclared node.entityType := by
  obtain ⟨entityType, declaration, _, hs, rfl⟩ :=
    Node.ofEntry_eq_ok_iff.mp (soleNode?_eq_some_iff.mp h)
  exact ⟨declaration, hs, rfl⟩

/-- The nodes of a compiled chain are all made by declarations. -/
theorem isDeclared_node? {document : Template.Document} {chain : Chain} {entityType : EntityType}
    {node : Node} (h : compile vocabulary document = .ok chain)
    (hn : chain.node? entityType = some node)
    : node.IsDeclared entityType := by
  rw [node?_eq_join? h] at hn
  refine Node.isDeclared_join? hn (fun sole hm => ?_) (pairwise_agree_soleNodes h entityType)
  obtain ⟨entry, _, he⟩ := List.mem_filterMap.mp hm
  rw [← (mem_soleNodes hm).1]
  exact isDeclared_soleNode he

/-- Every node of a compiled chain is for the entity type that it is found under, and what it says
about labels and hosting follows from its purchases and links, which leave no choice. -/
theorem compile_derives_fields {document : Template.Document} {chain : Chain}
    {entityType : EntityType} {node : Node} (h : compile vocabulary document = .ok chain)
    (hn : chain.node? entityType = some node)
    : node.entityType = entityType
      ∧ node.Derived
      ∧ ∀ other : Node,
          other.Derived
          → other = { node with
              linkLabels := other.linkLabels
              hosting := other.hosting
              hostedCommodities := other.hostedCommodities
              hostedProperties := other.hostedProperties }
          → other = node := by
  have hdeclared := isDeclared_node? h hn
  exact ⟨hdeclared.entityType, hdeclared.derived,
    fun other ho he => hdeclared.derived.unique ho he⟩

/-- A machine that a host runs and that buys from the host once more over a link. -/
def hostedMachine : Template.Entry where
  templateClass := "VIRTUAL_MACHINE"
  commoditySold := [{ commodityType := "VCPU" }, { commodityType := "VMEM", key := "guest" }]
  commodityBought := [
    {
      key := some { templateClass := "PHYSICAL_MACHINE", providerType := "HOSTING" }
      value := [{ commodityType := "CPU" }, { commodityType := "MEM" }] },
    {
      key := some { templateClass := "STORAGE", providerType := "LAYERED_OVER" }
      value := [{ commodityType := "STORAGE_AMOUNT" }] }]
  externalLink := [{
    value := {
      buyerRef := "VIRTUAL_MACHINE"
      sellerRef := "PHYSICAL_MACHINE"
      relationship := "HOSTING"
      commodityDefs := [{ commodityType := "NET_THROUGHPUT" }]
      probeProperties := [{ name := "uuid" }]
      entityProperties := [{
        entity := "PHYSICAL_MACHINE"
        handlers := [{ methodName := "getName", entityType := "PHYSICAL_MACHINE" }] }] } }]

/-- Two linked entries of one type are merged into a node that is hosted by one provider. -/
theorem compile_derives_fields_hostedMachine
    : ∃ chain node,
        compile .standard ⟨[hostedMachine, hostedMachine]⟩ = .ok chain
        ∧ chain.node? .virtualMachine = some node
        ∧ node.hosting.keys = [.physicalMachine]
        ∧ node.Derived := by
  have h
      : ((compile .standard ⟨[hostedMachine, hostedMachine]⟩).toOption.bind
          (fun chain => chain.node? .virtualMachine)).map (fun node => node.hosting.keys)
        = some [.physicalMachine] := by
    decide +kernel
  obtain ⟨node, hnode, hkeys⟩ := Option.map_eq_some_iff.mp h
  obtain ⟨chain, hchain, hnode⟩ := Option.bind_eq_some_iff.mp hnode
  have hcompile := toOption_eq_some_iff.mp hchain
  obtain ⟨_, hderived, _⟩ := compile_derives_fields hcompile hnode
  exact ⟨chain, node, hcompile, hnode, hkeys, hderived⟩

end SupplyGraph
