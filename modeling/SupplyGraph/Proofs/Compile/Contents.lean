import SupplyGraph.Proofs.Compile.DerivedFields
import SupplyGraph.Proofs.Entry.Description

/-!
What is in the node of an entry. A document of one entry compiles to a chain with one node, the one
that the entry describes; what a description leaves open follows from the rest.
-/

namespace SupplyGraph

variable {vocabulary : Vocabulary}

-----------------------------------------------------------------------------------------
-- The node of a declaration
-----------------------------------------------------------------------------------------

/-- A key that a map of sets has is found with its set. -/
theorem SortedMap.find?_eq_some_setAt {κ α : Type} [Key κ] [Key α]
    {map : SortedMap κ (SortedSet α)} {key : κ} (h : key ∈ map.keys)
    : map.find? key = some (map.setAt key) := by
  obtain ⟨set, hset⟩ := Option.isSome_iff_exists.mp ((map.mem_keys key).mp h)
  rw [setAt, hset]
  rfl

theorem SortedMap.find?_eq_none_of_not_mem_keys {κ α : Type} [Key κ] {map : SortedMap κ α}
    {key : κ} (h : key ∉ map.keys)
    : map.find? key = none := by
  rwa [mem_keys, Option.not_isSome_iff_eq_none] at h

/-- A commodity is bought from a provider when it is a commodity of a purchase from it. -/
theorem Purchase.mem_setAt_gather_wares (purchases : List Purchase) (provider : EntityType)
    (commodity : CommodityType)
    : commodity ∈ (SortedMap.gather (purchases.map wares)).setAt provider
      ↔ ∃ commodities ∈ (allFrom purchases provider).map Purchase.commodities,
          commodity ∈ commodities := by
  simp only [SortedMap.mem_setAt_gather, Declaration.mem_map_wares]
  simp only [allFrom, List.mem_map, List.mem_filter, decide_eq_true_eq]
  constructor
  · intro h
    obtain ⟨commodities, ⟨purchase, hm, hp, hc⟩, hcommodity⟩ := h
    exact ⟨commodities, ⟨purchase, ⟨hm, hp⟩, hc⟩, hcommodity⟩
  · intro h
    obtain ⟨commodities, ⟨purchase, ⟨hm, hp⟩, hc⟩, hcommodity⟩ := h
    exact ⟨commodities, ⟨purchase, hm, hp, hc⟩, hcommodity⟩

namespace Template.Entry

variable {entry : Entry} {entityType provider : EntityType} {declaration : Declaration}

/-- The node says of a provider what the bought groups that name it come to, if there are any. -/
theorem describeProvider_of_declaration?
    (h : entry.declaration? vocabulary = some (entityType, declaration))
    (hs : SingleValued (declaration.labels entityType))
    (hg : entry.groupsFrom vocabulary provider ≠ [])
    : DescribeProvider vocabulary (entry.groupsFrom vocabulary provider) provider
        (declaration.node entityType) := by
  obtain ⟨_, _, _, hbought, _⟩ := declaration?_eq_some_iff.mp h
  have hfrom := Purchase.mapM_groupsFrom hbought provider
  have hparts := (forall₂_of_mapM hfrom).imp (fun _ _ hp => Purchase.parts_of_declared? hp)
  obtain ⟨hlabels, _, _⟩ := singleValued_append_iff.mp hs
  have hrow
      : ∀ group ∈ entry.groupsFrom vocabulary provider,
          ∃ purchase ∈ declaration.bought,
            purchase.provider = provider ∧ group.label? = some purchase.relationship := by
    intro group hgroup
    obtain ⟨purchase, hpurchase, hread⟩ := exists_result_of_mapM hfrom hgroup
    obtain ⟨hm, hp⟩ := List.mem_filter.mp hpurchase
    obtain ⟨_, hlabel, _⟩ := Purchase.parts_of_declared? hread
    exact ⟨purchase, hm, of_decide_eq_true hp, hlabel⟩
  obtain ⟨first, hfirst⟩ := List.exists_mem_of_ne_nil _ hg
  obtain ⟨purchase, hpurchase, hprovider, _⟩ := hrow first hfirst
  constructor
  · refine ⟨_, SortedMap.find?_eq_some_setAt ?_, ?_⟩
    · rw [Declaration.node, SortedMap.mem_keys_gather]
      exact ⟨_, Declaration.mem_map_wares.mpr ⟨purchase, hpurchase, hprovider, rfl⟩⟩
    · exact SortedSet.isImage_flatMap
        (List.forall₂_map_right_iff.mpr (hparts.imp (fun _ _ hp => hp.2.2.2)))
        (Purchase.mem_setAt_gather_wares declaration.bought provider)
  · -- No two purchases from the provider differ in their label, so that the first stands for all.
    refine ⟨purchase.relationship, ?_, fun group hgroup => ?_⟩
    · refine (SortedMap.find?_firsts_eq_some_iff hlabels _ _).mpr ?_
      exact Declaration.mem_map_label.mpr ⟨purchase, hpurchase, hprovider, rfl⟩
    · obtain ⟨other, hother, hp, hlabel⟩ := hrow group hgroup
      rw [hlabel]
      refine congrArg some (hlabels provider _ _ ?_ ?_)
      · exact Declaration.mem_map_label.mpr ⟨other, hother, hp, rfl⟩
      · exact Declaration.mem_map_label.mpr ⟨purchase, hpurchase, hprovider, rfl⟩
  · rw [Declaration.node, SortedMap.find?_firsts, Purchase.lookupEntry_filterMap_bounds?]
    exact (findSome?_eq_of_forall₂ (hparts.imp (fun _ _ hp => hp.2.2.1))).symm

/-- The node says nothing of a provider that no bought group names. -/
theorem find?_eq_none_of_declaration?
    (h : entry.declaration? vocabulary = some (entityType, declaration))
    (hg : entry.groupsFrom vocabulary provider = [])
    : (declaration.node entityType).bought.find? provider = none
      ∧ (declaration.node entityType).providerLabels.find? provider = none
      ∧ (declaration.node entityType).cardinalities.find? provider = none := by
  obtain ⟨_, _, _, hbought, _⟩ := declaration?_eq_some_iff.mp h
  have hfrom := Purchase.mapM_groupsFrom hbought provider
  rw [hg, List.mapM_nil] at hfrom
  have hnone : Purchase.allFrom declaration.bought provider = [] := (Option.some.inj hfrom).symm
  have hother : ∀ purchase ∈ declaration.bought, purchase.provider ≠ provider := by
    intro purchase hm
    simpa using List.filter_eq_nil_iff.mp hnone purchase hm
  refine ⟨SortedMap.find?_eq_none_of_not_mem_keys ?_,
    SortedMap.find?_eq_none_of_not_mem_keys ?_, ?_⟩
  · rw [Declaration.node, SortedMap.mem_keys_gather]
    intro hi
    obtain ⟨_, hm⟩ := hi
    obtain ⟨purchase, hm, hp, _⟩ := Declaration.mem_map_wares.mp hm
    exact hother purchase hm hp
  · rw [Declaration.node, SortedMap.mem_keys_firsts]
    intro hi
    obtain ⟨_, hm⟩ := hi
    obtain ⟨purchase, hm, hp, _⟩ := Declaration.mem_map_label.mp hm
    exact hother purchase hm hp
  · rw [Declaration.node, SortedMap.find?_firsts, Purchase.lookupEntry_filterMap_bounds?, hnone]
    rfl

/-- An entry describes the node of what it declares. -/
theorem describes_of_declaration?
    (h : entry.declaration? vocabulary = some (entityType, declaration))
    (hs : SingleValued (declaration.labels entityType))
    : entry.Describes vocabulary (declaration.node entityType) := by
  obtain ⟨htype, hrecord, hsold, hbought, hlinks⟩ := declaration?_eq_some_iff.mp h
  obtain ⟨_, hsold⟩ := readNonempty?_eq_some_iff.mp hsold
  obtain ⟨record, hrecord, htemplates⟩ := Option.map_eq_some_iff.mp hrecord
  obtain ⟨kind, hkind, rfl⟩ := Option.map_eq_some_iff.mp hrecord
  have hnamed
      : ∀ commodity pair,
          Template.Commodity.sold? vocabulary commodity = some pair
          → vocabulary.commodityNamed? commodity.commodityType = some pair.1
            ∧ commodity.key.isSome = pair.2 := by
    intro commodity pair hpair
    obtain ⟨commodityType, hnamed, rfl⟩ := Option.map_eq_some_iff.mp hpair
    exact ⟨hnamed, rfl⟩
  have hkeyed := mapM_filter hsold (fun commodity pair hp => (hnamed commodity pair hp).2)
  exact {
    entityType := htype
    sold := SortedSet.isImage_ofList
      (mapM_map hsold (fun commodity pair hp => (hnamed commodity pair hp).1))
    keyedSold := SortedSet.isImage_ofList
      (mapM_map hkeyed (fun commodity pair hp => (hnamed commodity pair hp).1))
    named := fun group hgroup => by
      obtain ⟨purchase, _, hread⟩ := exists_result_of_mapM hbought hgroup
      rw [(Purchase.parts_of_declared? hread).1]
      rfl
    providers := fun provider hg => describeProvider_of_declaration? h hs hg
    noOthers := fun provider hg => find?_eq_none_of_declaration? h hg
    links := (forall₂_of_mapM hlinks).imp (fun _ _ hlink => Link.describes_of_declared? hlink)
    templates := ⟨kind, rel_of_readOptional? hkind, htemplates.symm⟩ }

end Template.Entry

-----------------------------------------------------------------------------------------
-- A description leaves no choice
-----------------------------------------------------------------------------------------

/-- A part that may be missing has at most one meaning. -/
theorem eq_of_rel {α β : Type} {read : α → Option β} {part : Option α} {result other : Option β}
    (hr : Option.Rel (fun value meaning => read value = some meaning) part result)
    (ho : Option.Rel (fun value meaning => read value = some meaning) part other)
    : result = other := by
  cases hr with
  | none =>
      cases ho
      rfl
  | some hr =>
      cases ho with
      | some ho => exact hr.symm.trans ho

namespace Template

theorem Handler.Describes.rightUnique : Relator.RightUnique (Handler.Describes vocabulary) := by
  intro handler step other hs ho
  obtain ⟨name, hname, hentity⟩ := hs.entityType
  obtain ⟨_, hsame, hother⟩ := ho.entityType
  obtain rfl := Option.some.inj (hname.symm.trans hsame)
  obtain ⟨methodName, entityType, directlyApply⟩ := step
  obtain rfl := Option.some.inj (hs.methodName.symm.trans ho.methodName)
  obtain rfl := Option.some.inj (hentity.symm.trans hother)
  obtain rfl := hs.directlyApply.trans ho.directlyApply.symm
  rfl

/-- A property describes one propagation, as each of its handlers describes one step. -/
theorem EntityProperty.Describes.rightUnique
    : Relator.RightUnique (EntityProperty.Describes vocabulary) := by
  intro property propagation other hp ho
  obtain ⟨name, hname, hentity⟩ := hp.entity
  obtain ⟨_, hsame, hother⟩ := ho.entity
  obtain rfl := Option.some.inj (hname.symm.trans hsame)
  obtain ⟨entity, attributeName, useTopoExt, handlers⟩ := propagation
  obtain rfl := Option.some.inj (hentity.symm.trans hother)
  obtain rfl := hp.attributeName.trans ho.attributeName.symm
  obtain rfl := hp.useTopoExt.trans ho.useTopoExt.symm
  obtain rfl := List.right_unique_forall₂' Handler.Describes.rightUnique hp.handlers ho.handlers
  rfl

/-- A link entry describes one link. -/
theorem LinkEntry.Describes.rightUnique
    : Relator.RightUnique (LinkEntry.Describes vocabulary) := by
  intro entry link other hl ho
  obtain ⟨key, buyer, seller, relationship, linkKey, hasExternalEntity, commodities,
    probeProperties, propagations⟩ := link
  obtain rfl := eq_of_rel hl.key ho.key
  obtain rfl := Option.some.inj (hl.buyer.symm.trans ho.buyer)
  obtain rfl := Option.some.inj (hl.seller.symm.trans ho.seller)
  obtain rfl := eq_of_rel hl.relationship ho.relationship
  obtain rfl := hl.linkKey.trans ho.linkKey.symm
  obtain rfl := hl.hasExternalEntity.trans ho.hasExternalEntity.symm
  obtain rfl := hl.commodities.unique ho.commodities
  obtain rfl := hl.probeProperties.unique ho.probeProperties
  obtain rfl := List.right_unique_forall₂' EntityProperty.Describes.rightUnique hl.propagations
    ho.propagations
  rfl

/-- Groups leave no choice for what a node says of their provider. -/
theorem DescribeProvider.unique {groups : List BoughtGroup} {provider : EntityType}
    {node other : Node} (hg : groups ≠ [])
    (hn : DescribeProvider vocabulary groups provider node)
    (ho : DescribeProvider vocabulary groups provider other)
    : other.bought.find? provider = node.bought.find? provider
      ∧ other.providerLabels.find? provider = node.providerLabels.find? provider
      ∧ other.cardinalities.find? provider = node.cardinalities.find? provider := by
  obtain ⟨commodities, hbought, himage⟩ := hn.bought
  obtain ⟨otherCommodities, hotherBought, hotherImage⟩ := ho.bought
  obtain ⟨label, hlabel, hall⟩ := hn.label
  obtain ⟨otherLabel, hotherLabel, hotherAll⟩ := ho.label
  obtain ⟨group, hgroup⟩ := List.exists_mem_of_ne_nil _ hg
  refine ⟨?_, ?_, ho.cardinality.trans hn.cardinality.symm⟩
  · rw [hbought, hotherBought, himage.unique hotherImage]
  · rw [hlabel, hotherLabel, ← hall group hgroup, ← hotherAll group hgroup]

/-- An entry leaves no choice for what the node says of any provider. -/
theorem Entry.Describes.find?_eq {entry : Entry} {node other : Node}
    (hn : entry.Describes vocabulary node) (ho : entry.Describes vocabulary other)
    (provider : EntityType)
    : other.bought.find? provider = node.bought.find? provider
      ∧ other.providerLabels.find? provider = node.providerLabels.find? provider
      ∧ other.cardinalities.find? provider = node.cardinalities.find? provider := by
  by_cases hg : entry.groupsFrom vocabulary provider = []
  · obtain ⟨hbought, hlabels, hcardinalities⟩ := hn.noOthers provider hg
    rw [hbought, hlabels, hcardinalities]
    exact ho.noOthers provider hg
  · exact (hn.providers provider hg).unique hg (ho.providers provider hg)

/-- Of the nodes whose other fields follow from their purchases and links, an entry describes at
most one. -/
theorem Entry.Describes.unique {entry : Entry} {node other : Node}
    (hn : entry.Describes vocabulary node) (ho : entry.Describes vocabulary other)
    (hd : node.Derived) (hod : other.Derived)
    : other = node := by
  have hfind := hn.find?_eq ho
  have htype := Option.some.inj (ho.entityType.symm.trans hn.entityType)
  have hsold := hn.sold.unique ho.sold
  have hkeyed := hn.keyedSold.unique ho.keyedSold
  have hbought : other.bought = node.bought := SortedMap.ext (fun provider => (hfind provider).1)
  have hlabels : other.providerLabels = node.providerLabels :=
    SortedMap.ext (fun provider => (hfind provider).2.1)
  have hcardinalities : other.cardinalities = node.cardinalities :=
    SortedMap.ext (fun provider => (hfind provider).2.2)
  have hlinks := List.right_unique_forall₂' LinkEntry.Describes.rightUnique ho.links hn.links
  have hrecords : other.templates = node.templates := by
    obtain ⟨kind, hkind, htemplates⟩ := hn.templates
    obtain ⟨otherKind, hotherKind, hotherTemplates⟩ := ho.templates
    rw [htemplates, hotherTemplates, eq_of_rel hotherKind hkind]
  refine hd.unique hod ?_
  rw [← htype, ← hsold, ← hkeyed, ← hbought, ← hlabels, ← hcardinalities, ← hlinks, ← hrecords]

end Template

-----------------------------------------------------------------------------------------
-- Documents of one entry
-----------------------------------------------------------------------------------------

/-- A document of one entry that compiles has one node, under its entity type. The entry describes
this node, the other fields follow from what it describes, and there is no other such node. -/
theorem compile_singleton_describes {entry : Template.Entry} {chain : Chain}
    (h : compile vocabulary ⟨[entry]⟩ = .ok chain)
    : ∃ node,
        chain.nodes.entries = [(node.entityType, node)]
        ∧ entry.Describes vocabulary node
        ∧ node.Derived
        ∧ ∀ other, entry.Describes vocabulary other → other.Derived → other = node := by
  obtain ⟨node, hnode, rfl⟩ := compile_singleton_eq_ok_iff.mp h
  obtain ⟨entityType, declaration, hd, hs, rfl⟩ := Node.ofEntry_eq_ok_iff.mp hnode
  have hdescribes := Template.Entry.describes_of_declaration? hd hs
  have hderived := Declaration.derived_node hs
  exact ⟨_, rfl, hdescribes, hderived,
    fun other ho hod => hdescribes.unique ho hderived hod⟩

/-- A machine that names its commodities more than once: one is keyed in the second place only, and
only the second group for its host states a cardinality. -/
def repeatingMachine : Template.Entry :=
  { hostedMachine with
    commoditySold := [
      { commodityType := "VMEM" },
      { commodityType := "VCPU" },
      { commodityType := " VMEM ", key := "" }]
    commodityBought := [
      {
        key := some { templateClass := "PHYSICAL_MACHINE", providerType := "HOSTING" }
        value := [{ commodityType := "MEM" }] },
      { key := some { templateClass := "STORAGE", providerType := "LAYERED_OVER" } },
      {
        key := some {
          templateClass := " PHYSICAL_MACHINE"
          providerType := "HOSTING"
          cardinalityMax := some 2 }
        value := [{ commodityType := "CPU" }, { commodityType := "MEM" }] }] }

/-- An entry that buys twice from one provider keeps the cardinality that it states first. -/
theorem compile_singleton_describes_repeatingMachine
    : ∃ chain node,
        compile .standard ⟨[repeatingMachine]⟩ = .ok chain
        ∧ chain.nodes.entries = [(.virtualMachine, node)]
        ∧ repeatingMachine.Describes .standard node
        ∧ node.keyedSold.toList = [.vmem]
        ∧ node.cardinalities.find? .physicalMachine = some ⟨none, some 2⟩ := by
  have h
      : (compile .standard ⟨[repeatingMachine]⟩).toOption.map (fun chain =>
          chain.nodes.entries.map (fun entry =>
            (entry.1, entry.2.keyedSold.toList,
              entry.2.cardinalities.find? .physicalMachine)))
        = some [(.virtualMachine, [.vmem], some ⟨none, some 2⟩)] := by
    decide +kernel
  obtain ⟨chain, hchain, hfields⟩ := Option.map_eq_some_iff.mp h
  have hcompile := toOption_eq_some_iff.mp hchain
  obtain ⟨node, hentries, hdescribes, _⟩ := compile_singleton_describes hcompile
  rw [hentries, List.map_singleton, List.singleton_inj, Prod.mk.injEq, Prod.mk.injEq] at hfields
  obtain ⟨htype, hkeyed, hcardinality⟩ := hfields
  simp only at htype
  rw [htype] at hentries
  exact ⟨chain, node, hcompile, hentries, hdescribes, hkeyed, hcardinality⟩

end SupplyGraph
