import SupplyGraph.Proofs.Compile.EntryOrder
import SupplyGraph.Proofs.Entry.Rearrangement

/-!
The order inside an entry. It decides neither whether the entry compiles nor what its node says. It
shows in the order of the links, and in which one stays of two cardinalities that bought groups
state for a provider.
-/

namespace SupplyGraph

-----------------------------------------------------------------------------------------
-- Declarations in another order
-----------------------------------------------------------------------------------------

namespace Declaration

variable {entityType : EntityType} {declaration other : Declaration}

/-- Reordered declarations state the same labels in another order. -/
theorem IsReordering.labels (h : declaration.IsReordering other)
    : (declaration.labels entityType).Perm (other.labels entityType) :=
  (h.bought.map _).append (h.links.filterMap _)

/-- The order does not matter for whether a provider gets two labels. -/
theorem IsReordering.singleValued (h : declaration.IsReordering other)
    (hs : SingleValued (declaration.labels entityType))
    : SingleValued (other.labels entityType) :=
  hs.of_subset (fun _ hm => h.labels.mem_iff.mpr hm)

/-- Only the links and the cardinalities of the node depend on the order. -/
theorem IsReordering.node_eq (h : declaration.IsReordering other)
    (hs : SingleValued (declaration.labels entityType))
    : other.node entityType
      = { declaration.node entityType with
          links := (other.node entityType).links
          cardinalities := (other.node entityType).cardinalities } := by
  obtain ⟨hb, hl, _⟩ := singleValued_append_iff.mp hs
  have hkeyed : (declaration.sold.filter Prod.snd).Perm (other.sold.filter Prod.snd) :=
    h.sold.filter _
  have hhosting
      : SortedMap.firsts (hostingPairs (declaration.labels entityType))
        = SortedMap.firsts (hostingPairs (other.labels entityType)) :=
    SortedMap.firsts_congr (singleValued_hostingPairs _) (fun _ => (h.labels.filter _).mem_iff)
  have hwares : declaration.hostedWares.Perm other.hostedWares :=
    ((h.bought.filter _).map _).append (h.links.map _)
  simp only [node]
  rw [SortedSet.ofList_eq_of_perm (h.sold.map Prod.fst),
    SortedSet.ofList_eq_of_perm (hkeyed.map Prod.fst),
    SortedMap.gather_congr (fun _ => (h.bought.map Purchase.wares).mem_iff),
    SortedMap.firsts_congr hb (fun _ => (h.bought.map Purchase.label).mem_iff),
    SortedMap.firsts_congr hl (fun _ => (h.links.filterMap (Link.label? entityType)).mem_iff),
    hhosting, SortedMap.gather_congr (fun _ => hwares.mem_iff),
    SortedMap.gather_congr (fun _ => (h.links.map _).mem_iff), h.templates]

/-- They have cardinalities for the same providers. -/
theorem IsReordering.cardinalityKeys (h : declaration.IsReordering other)
    : (other.node entityType).cardinalities.keys
      = (declaration.node entityType).cardinalities.keys := by
  refine SortedMap.keys_ext (fun provider => ?_)
  simp only [node, SortedMap.mem_keys_firsts, (h.bought.filterMap Purchase.bounds?).mem_iff]

end Declaration

-----------------------------------------------------------------------------------------
-- The nodes of rearranged entries
-----------------------------------------------------------------------------------------

variable {vocabulary : Vocabulary}

/-- The node of a rearranged entry is the one of the entry but for two fields. The links have moved
with their declarations, and a provider that has a cardinality may have another one of those that
the entry states for it. -/
structure Template.Entry.RearrangesNode (vocabulary : Vocabulary) (entry other : Entry)
    (node moved : Node)
    : Prop where
  otherwise : moved = { node with links := moved.links, cardinalities := moved.cardinalities }
  links : node.links.Perm moved.links
  linkAt
    : ∀ (position place : Nat) (first second : LinkEntry),
        entry.externalLink[position]? = some first
        → other.externalLink[place]? = some second
        → first.IsRearrangement second
        → ∃ link, node.links[position]? = some link ∧ moved.links[place]? = some link
  cardinalityKeys : moved.cardinalities.keys = node.cardinalities.keys
  cardinality
    : ∀ provider cardinality,
        moved.cardinalities.find? provider = some cardinality
        → ∃ group ∈ entry.groupsFrom vocabulary provider,
            group.cardinality? = some cardinality

namespace Template.Entry

variable {entry other : Entry} {entityType : EntityType} {declaration reordered : Declaration}

/-- A cardinality of the node of an entry is stated by one of its bought groups. -/
theorem exists_group_of_cardinality
    (hd : entry.declaration? vocabulary = some (entityType, declaration)) {provider : EntityType}
    {cardinality : Cardinality}
    (hm : (provider, cardinality) ∈ declaration.bought.filterMap Purchase.bounds?)
    : ∃ group ∈ entry.groupsFrom vocabulary provider, group.cardinality? = some cardinality := by
  obtain ⟨_, _, _, hbought, _⟩ := declaration?_eq_some_iff.mp hd
  obtain ⟨purchase, hpurchase, hbounds⟩ := List.mem_filterMap.mp hm
  obtain ⟨group, hgroup, hread⟩ := exists_mem_of_mapM hbought hpurchase
  obtain ⟨hprovider, _, hcardinality, _⟩ := Purchase.parts_of_declared? hread
  obtain ⟨stated, hstated, hpair⟩ := Option.map_eq_some_iff.mp hbounds
  obtain ⟨rfl, rfl⟩ := Prod.mk.inj hpair
  refine ⟨group, List.mem_filter.mpr ⟨hgroup, ?_⟩, hcardinality.trans hstated⟩
  exact decide_eq_true hprovider

theorem rearrangesNode_of_isReordering
    (hd : entry.declaration? vocabulary = some (entityType, declaration))
    (ho : other.declaration? vocabulary = some (entityType, reordered))
    (hr : declaration.IsReordering reordered)
    (hs : SingleValued (declaration.labels entityType))
    : RearrangesNode vocabulary entry other (declaration.node entityType)
        (reordered.node entityType) where
  otherwise := hr.node_eq hs
  links := hr.links
  linkAt := by
    intro position place first second hfirst hsecond hrearranged
    obtain ⟨_, _, _, _, hlinks⟩ := declaration?_eq_some_iff.mp hd
    obtain ⟨_, _, _, _, hmoved⟩ := declaration?_eq_some_iff.mp ho
    obtain ⟨link, _, hlink⟩ := exists_result_of_mapM hlinks (List.mem_of_getElem? hfirst)
    refine ⟨link, ?_, ?_⟩
    · exact (getElem?_of_mapM hlinks position).trans (by rw [hfirst]; exact hlink)
    · refine (getElem?_of_mapM hmoved place).trans ?_
      rw [hsecond, Option.bind_some, ← Link.declared?_congr hrearranged, hlink]
  cardinalityKeys := hr.cardinalityKeys
  cardinality := by
    intro provider cardinality hc
    simp only [Declaration.node, SortedMap.find?_firsts] at hc
    have hm := (hr.bought.filterMap Purchase.bounds?).mem_iff.mpr (mem_of_lookupEntry hc)
    exact exists_group_of_cardinality hd hm

end Template.Entry

/-- A rearranged entry has a node as the entry has. -/
theorem exists_ofEntry_of_isRearrangement {entry other : Template.Entry} {node : Node}
    (h : entry.IsRearrangement other) (hn : Node.ofEntry vocabulary entry = .ok node)
    : ∃ moved,
        Node.ofEntry vocabulary other = .ok moved
        ∧ moved.entityType = node.entityType
        ∧ entry.RearrangesNode vocabulary other node moved := by
  obtain ⟨entityType, declaration, hd, hs, rfl⟩ := Node.ofEntry_eq_ok_iff.mp hn
  obtain ⟨reordered, ho, hr⟩ := Template.Entry.exists_declaration?_of_isRearrangement h hd
  exact ⟨reordered.node entityType,
    Node.ofEntry_eq_ok_iff.mpr ⟨entityType, reordered, ho, hr.singleValued hs, rfl⟩, rfl,
    Template.Entry.rearrangesNode_of_isReordering hd ho hr hs⟩

/-- An entry compiles if a rearrangement of it does. -/
theorem compile_singleton_ok_of_isRearrangement {entry other : Template.Entry}
    (h : entry.IsRearrangement other)
    (hok : ∃ chain, compile vocabulary ⟨[entry]⟩ = .ok chain)
    : ∃ chain, compile vocabulary ⟨[other]⟩ = .ok chain := by
  obtain ⟨_, hchain⟩ := hok
  obtain ⟨node, hnode, _⟩ := compile_singleton_eq_ok_iff.mp hchain
  obtain ⟨moved, hmoved, _⟩ := exists_ofEntry_of_isRearrangement h hnode
  exact ⟨_, compile_singleton_eq_ok_iff.mpr ⟨moved, hmoved, rfl⟩⟩

/-- A document of one entry compiles whatever the order of the lists in the entry is, or it does not
compile in any order. The node is always the same, but for the order of its links and for which one
it has of the cardinalities that the entry states for a provider. -/
theorem compile_singleton_rearranged (vocabulary : Vocabulary) {entry other : Template.Entry}
    (h : entry.IsRearrangement other)
    : ((∃ chain, compile vocabulary ⟨[entry]⟩ = .ok chain)
        ↔ ∃ chain, compile vocabulary ⟨[other]⟩ = .ok chain)
      ∧ ∀ chain rearranged,
          compile vocabulary ⟨[entry]⟩ = .ok chain
          → compile vocabulary ⟨[other]⟩ = .ok rearranged
          → ∃ node moved,
              chain.nodes.entries = [(node.entityType, node)]
              ∧ rearranged.nodes.entries = [(node.entityType, moved)]
              ∧ entry.RearrangesNode vocabulary other node moved := by
  refine ⟨⟨compile_singleton_ok_of_isRearrangement h,
    compile_singleton_ok_of_isRearrangement h.symm⟩, fun chain rearranged hchain hother => ?_⟩
  obtain ⟨node, hnode, rfl⟩ := compile_singleton_eq_ok_iff.mp hchain
  obtain ⟨found, hfound, rfl⟩ := compile_singleton_eq_ok_iff.mp hother
  obtain ⟨moved, hmoved, htype, hnodes⟩ := exists_ofEntry_of_isRearrangement h hnode
  obtain rfl := Except.ok.inj (hmoved.symm.trans hfound)
  refine ⟨node, moved, rfl, ?_, hnodes⟩
  rw [← htype]
  rfl

/-- A machine with two groups that state different cardinalities for its host, and with a link from
the host and one from a storage. -/
def twofoldMachine : Template.Entry :=
  { hostedMachine with
    commodityBought := (boundedMachine 1 2).commodityBought ++ (boundedMachine 3 4).commodityBought
    externalLink :=
      hostedMachine.externalLink
      ++ hostedMachine.externalLink.map (fun entry =>
        { entry with value := { entry.value with sellerRef := "STORAGE", relationship := none } }) }

/-- The same machine with its lists the other way round. -/
def turnedMachine : Template.Entry :=
  { twofoldMachine with
    commoditySold := twofoldMachine.commoditySold.reverse
    commodityBought := twofoldMachine.commodityBought.reverse
    externalLink := twofoldMachine.externalLink.reverse }

theorem isRearrangement_turnedMachine : twofoldMachine.IsRearrangement turnedMachine where
  templateClass := rfl
  templateType := rfl
  templatePriority := rfl
  commoditySold := (List.reverse_perm _).symm
  commodityBought :=
    ⟨_, List.forall₂_same.mpr (fun _ _ => ⟨rfl, .rfl⟩), (List.reverse_perm _).symm⟩
  externalLink :=
    ⟨_, List.forall₂_same.mpr (fun _ _ => ⟨.rfl, .rfl, rfl⟩), (List.reverse_perm _).symm⟩

/-- Of two groups that state different cardinalities, the one that is written first decides. -/
theorem compile_singleton_rearranged_turnedMachine
    : ∃ chain rearranged node moved,
        compile .standard ⟨[twofoldMachine]⟩ = .ok chain
        ∧ compile .standard ⟨[turnedMachine]⟩ = .ok rearranged
        ∧ chain.nodes.entries = [(.virtualMachine, node)]
        ∧ rearranged.nodes.entries = [(.virtualMachine, moved)]
        ∧ twofoldMachine.RearrangesNode .standard turnedMachine node moved
        ∧ node.cardinalities.find? .physicalMachine = some ⟨some 1, some 2⟩
        ∧ moved.cardinalities.find? .physicalMachine = some ⟨some 3, some 4⟩ := by
  have hfirst
      : (compile .standard ⟨[twofoldMachine]⟩).toOption.map (fun chain =>
          chain.nodes.entries.map (fun entry =>
            (entry.1, entry.2.cardinalities.find? .physicalMachine)))
        = some [(.virtualMachine, some ⟨some 1, some 2⟩)] := by
    decide +kernel
  have hsecond
      : (compile .standard ⟨[turnedMachine]⟩).toOption.map (fun chain =>
          chain.nodes.entries.map (fun entry =>
            (entry.1, entry.2.cardinalities.find? .physicalMachine)))
        = some [(.virtualMachine, some ⟨some 3, some 4⟩)] := by
    decide +kernel
  obtain ⟨chain, hchain, hfirst⟩ := Option.map_eq_some_iff.mp hfirst
  obtain ⟨rearranged, hrearranged, hsecond⟩ := Option.map_eq_some_iff.mp hsecond
  rw [toOption_eq_some_iff] at hchain hrearranged
  obtain ⟨_, hnodes⟩ := compile_singleton_rearranged .standard isRearrangement_turnedMachine
  obtain ⟨node, moved, hentries, hmoved, hrearranges⟩ :=
    hnodes chain rearranged hchain hrearranged
  rw [hentries, List.map_singleton, List.singleton_inj, Prod.mk.injEq] at hfirst
  rw [hmoved, List.map_singleton, List.singleton_inj, Prod.mk.injEq] at hsecond
  obtain ⟨htype, hleast⟩ := hfirst
  rw [show node.entityType = .virtualMachine from htype] at hentries hmoved
  exact ⟨chain, rearranged, node, moved, hchain, hrearranged, hentries, hmoved, hrearranges,
    hleast, hsecond.2⟩

end SupplyGraph
