import SupplyGraph.Proofs.Chain.Grouping
import SupplyGraph.Proofs.Compile.DerivedFields

/-!
The order of entries. It decides neither whether a document compiles nor what the nodes of its chain
say. It shows in the order of links and templates, and in which one stays of two cardinalities that
are stated for a provider.
-/

namespace SupplyGraph

-----------------------------------------------------------------------------------------
-- Unions of the same parts in another order
-----------------------------------------------------------------------------------------

namespace SortedMap

variable {κ α : Type} [Key κ]

/-- Maps with the same keys list them alike, since both list them in ascending order. -/
theorem keys_ext {left right : SortedMap κ α} (h : ∀ key, key ∈ left.keys ↔ key ∈ right.keys)
    : left.keys = right.keys :=
  pairwise_ext left.ascending right.ascending h

/-- A map that is the union of some parts is so in any order of them. -/
theorem IsUnion.of_perm {parts others : List (SortedMap κ α)} {map : SortedMap κ α}
    (h : IsUnion parts map) (hp : parts.Perm others)
    : IsUnion others map := by
  intro key value
  simp only [h key value, hp.mem_iff]

/-- Sets under a key are united in any order as well. -/
theorem IsSetUnion.of_perm [Key α] {parts others : List (SortedMap κ (SortedSet α))}
    {map : SortedMap κ (SortedSet α)} (h : IsSetUnion parts map) (hp : parts.Perm others)
    : IsSetUnion others map where
  keys key := by simp only [h.keys key, hp.mem_iff]
  members key value := by simp only [h.members key value, hp.mem_iff]

end SortedMap

namespace Node

/-- The nodes say the same: links and templates may stand in another order, and the providers that
have a cardinality may have another one. -/
structure IsReordering (node other : Node) : Prop where
  entityType : node.entityType = other.entityType
  sold : node.sold = other.sold
  keyedSold : node.keyedSold = other.keyedSold
  bought : node.bought = other.bought
  providerLabels : node.providerLabels = other.providerLabels
  linkLabels : node.linkLabels = other.linkLabels
  hosting : node.hosting = other.hosting
  hostedCommodities : node.hostedCommodities = other.hostedCommodities
  hostedProperties : node.hostedProperties = other.hostedProperties
  cardinalityKeys : node.cardinalities.keys = other.cardinalities.keys
  links : node.links.Perm other.links
  templates : node.templates.Perm other.templates

variable {entityType : EntityType} {parts others : List Node} {node other : Node}

/-- A node has a cardinality for every provider for which one of its parts has one. -/
theorem IsUnion.mem_keys_cardinalities (h : IsUnion entityType parts node) (provider : EntityType)
    : provider ∈ node.cardinalities.keys
      ↔ ∃ part ∈ parts, (part.cardinalities.find? provider).isSome := by
  rw [SortedMap.mem_keys, h.cardinalities, List.findSome?_isSome_iff]

/-- Unions of the same parts say the same, in whatever order the parts are united. -/
theorem IsUnion.isReordering (hn : IsUnion entityType parts node)
    (ho : IsUnion entityType others other) (hp : parts.Perm others)
    : node.IsReordering other where
  entityType := hn.entityType.trans ho.entityType.symm
  sold := SortedSet.ext (fun commodity => by
    simp only [hn.sold commodity, ho.sold commodity, hp.mem_iff])
  keyedSold := SortedSet.ext (fun commodity => by
    simp only [hn.keyedSold commodity, ho.keyedSold commodity, hp.mem_iff])
  bought := (hn.bought.of_perm (hp.map _)).unique ho.bought
  providerLabels := (hn.providerLabels.of_perm (hp.map _)).unique ho.providerLabels
  linkLabels := (hn.linkLabels.of_perm (hp.map _)).unique ho.linkLabels
  hosting := (hn.hosting.of_perm (hp.map _)).unique ho.hosting
  hostedCommodities := (hn.hostedCommodities.of_perm (hp.map _)).unique ho.hostedCommodities
  hostedProperties := (hn.hostedProperties.of_perm (hp.map _)).unique ho.hostedProperties
  cardinalityKeys := SortedMap.keys_ext (fun provider => by
    simp only [hn.mem_keys_cardinalities, ho.mem_keys_cardinalities, hp.mem_iff])
  links := by
    rw [hn.links, ho.links]
    exact hp.flatMap_right _
  templates := by
    rw [hn.templates, ho.templates]
    exact hp.flatMap_right _

/-- Where no two parts have different cardinalities for a provider, it is all one which stays. -/
theorem IsUnion.cardinalities_isUnion (h : IsUnion entityType parts node)
    (ha
      : ∀ first ∈ parts,
          ∀ second ∈ parts,
            ∀ provider left right,
              first.cardinalities.find? provider = some left
              → second.cardinalities.find? provider = some right
              → left = right)
    : SortedMap.IsUnion (parts.map Node.cardinalities) node.cardinalities := by
  intro provider cardinality
  rw [h.cardinalities]
  simp only [List.mem_map, exists_exists_and_eq_and]
  constructor
  · intro hf
    exact List.exists_of_findSome?_eq_some hf
  · intro hi
    obtain ⟨part, hm, hc⟩ := hi
    have hsome : (parts.findSome? (fun part => part.cardinalities.find? provider)).isSome := by
      rw [List.findSome?_isSome_iff]
      exact ⟨part, hm, by rw [hc]; rfl⟩
    obtain ⟨found, hfound⟩ := Option.isSome_iff_exists.mp hsome
    obtain ⟨first, hfirst, hc'⟩ := List.exists_of_findSome?_eq_some hfound
    rw [hfound, ha first hfirst part hm provider found cardinality hc' hc]

end Node

-----------------------------------------------------------------------------------------
-- Documents with the same entries in another order
-----------------------------------------------------------------------------------------

/-- The cardinalities that bought groups of the entries for an entity type state, each with the
provider that it is stated for. -/
def statedCardinalities (vocabulary : Vocabulary) (entityType : EntityType)
    (entries : List Template.Entry)
    : List (EntityType × Cardinality) :=
  (entries.filter (fun entry => entry.entityType? vocabulary = some entityType)).flatMap
    (fun entry =>
      entry.commodityBought.filterMap (fun group =>
        (Purchase.declared? vocabulary group).bind Purchase.bounds?))

variable {vocabulary : Vocabulary} {entries others : List Template.Entry}

/-- The cardinalities of a sole node are stated by the bought groups of its entry. -/
theorem mem_statedCardinalities {entityType : EntityType} {node : Node}
    (h : node ∈ soleNodes vocabulary entityType entries) {provider : EntityType}
    {cardinality : Cardinality} (hc : node.cardinalities.find? provider = some cardinality)
    : (provider, cardinality) ∈ statedCardinalities vocabulary entityType entries := by
  obtain ⟨entry, he, hnode⟩ := List.mem_filterMap.mp h
  obtain ⟨_, declaration, hd, _, rfl⟩ :=
    Node.ofEntry_eq_ok_iff.mp (soleNode?_eq_some_iff.mp hnode)
  obtain ⟨_, _, _, hbought, _⟩ := Template.Entry.declaration?_eq_some_iff.mp hd
  simp only [Declaration.node, SortedMap.find?_firsts] at hc
  obtain ⟨purchase, hp, hbounds⟩ := List.mem_filterMap.mp (mem_of_lookupEntry hc)
  obtain ⟨group, hg, hdeclared⟩ := exists_mem_of_mapM hbought hp
  refine List.mem_flatMap.mpr ⟨entry, he, List.mem_filterMap.mpr ⟨group, hg, ?_⟩⟩
  rw [hdeclared, Option.bind_some, hbounds]

/-- The nodes of the entries are reordered with the entries. -/
theorem soleNodes_perm (h : entries.Perm others) (entityType : EntityType)
    : (soleNodes vocabulary entityType entries).Perm (soleNodes vocabulary entityType others) :=
  (h.filter _).filterMap _

/-- Compiling asks every entry for a node and every two of them for agreement, both without regard
to the order. -/
theorem compile_ok_of_perm (h : entries.Perm others)
    (hok : ∃ chain, compile vocabulary ⟨entries⟩ = .ok chain)
    : ∃ chain, compile vocabulary ⟨others⟩ = .ok chain := by
  obtain ⟨chain, hchain⟩ := hok
  obtain ⟨hall, hp, _⟩ := compile_eq_ok_iff.mp hchain
  refine ⟨_, compile_eq_ok_iff.mpr ⟨fun entry he => hall entry (h.mem_iff.mpr he), ?_, rfl⟩⟩
  exact ((h.filterMap _).pairwise_iff Node.Compatible.symm).mp hp

/-- Documents with the same entries compile alike. Their chains have nodes for the same entity
types, and these nodes say the same, with the same cardinalities too unless two bought groups state
different ones for a provider. -/
theorem compile_perm (vocabulary : Vocabulary) (h : entries.Perm others)
    : ((∃ chain, compile vocabulary ⟨entries⟩ = .ok chain)
        ↔ ∃ chain, compile vocabulary ⟨others⟩ = .ok chain)
      ∧ ∀ chain other,
          compile vocabulary ⟨entries⟩ = .ok chain
          → compile vocabulary ⟨others⟩ = .ok other
          → chain.entityTypes = other.entityTypes
            ∧ ∀ entityType first second,
                chain.node? entityType = some first
                → other.node? entityType = some second
                → first.IsReordering second
                  ∧ (SingleValued (statedCardinalities vocabulary entityType entries)
                    → first.cardinalities = second.cardinalities) := by
  refine ⟨⟨compile_ok_of_perm h, compile_ok_of_perm h.symm⟩, ?_⟩
  intro chain other hchain hother
  refine ⟨SortedMap.keys_ext (fun entityType => ?_), ?_⟩
  · change entityType ∈ chain.entityTypes ↔ entityType ∈ other.entityTypes
    rw [mem_entityTypes_iff_ne_nil hchain, mem_entityTypes_iff_ne_nil hother, ne_eq, ne_eq,
      ← List.length_eq_zero_iff, ← List.length_eq_zero_iff,
      (soleNodes_perm h entityType).length_eq]
  · intro entityType first second hfirst hsecond
    have hp : (soleNodes vocabulary entityType entries).Perm
        (soleNodes vocabulary entityType others) := soleNodes_perm h entityType
    obtain ⟨_, hf⟩ := (node?_eq_some_iff_isUnion hchain entityType first).mp hfirst
    obtain ⟨_, hs⟩ := (node?_eq_some_iff_isUnion hother entityType second).mp hsecond
    refine ⟨hf.isReordering hs hp, fun hstated => ?_⟩
    have hagree
        : ∀ left ∈ soleNodes vocabulary entityType entries,
            ∀ right ∈ soleNodes vocabulary entityType entries,
              ∀ provider least most,
                left.cardinalities.find? provider = some least
                → right.cardinalities.find? provider = some most
                → least = most :=
      fun left hl right hr provider least most hleast hmost =>
        hstated provider least most (mem_statedCardinalities hl hleast)
          (mem_statedCardinalities hr hmost)
    have hunion := (hf.cardinalities_isUnion hagree).of_perm (hp.map _)
    refine hunion.unique (hs.cardinalities_isUnion ?_)
    intro left hl right hr
    exact hagree left (hp.mem_iff.mpr hl) right (hp.mem_iff.mpr hr)

/-- A machine that states how many hosts may run it. -/
def boundedMachine (least most : Int32) : Template.Entry :=
  { hostedMachine with
    commodityBought := [{
      key := some {
        templateClass := "PHYSICAL_MACHINE"
        providerType := "HOSTING"
        cardinalityMin := some least
        cardinalityMax := some most }
      value := [{ commodityType := "CPU" }] }] }

/-- Of two machines that state different cardinalities, the one that comes first decides. -/
theorem compile_perm_boundedMachine
    : ∃ chain other first second,
        compile .standard ⟨[boundedMachine 1 2, boundedMachine 3 4]⟩ = .ok chain
        ∧ compile .standard ⟨[boundedMachine 3 4, boundedMachine 1 2]⟩ = .ok other
        ∧ chain.node? .virtualMachine = some first
        ∧ other.node? .virtualMachine = some second
        ∧ first.IsReordering second
        ∧ first.cardinalities.find? .physicalMachine = some ⟨some 1, some 2⟩
        ∧ second.cardinalities.find? .physicalMachine = some ⟨some 3, some 4⟩ := by
  have hfirst
      : ((compile .standard ⟨[boundedMachine 1 2, boundedMachine 3 4]⟩).toOption.bind
          (fun chain => chain.node? .virtualMachine)).bind
          (fun node => node.cardinalities.find? .physicalMachine)
        = some ⟨some 1, some 2⟩ := by
    decide +kernel
  have hsecond
      : ((compile .standard ⟨[boundedMachine 3 4, boundedMachine 1 2]⟩).toOption.bind
          (fun chain => chain.node? .virtualMachine)).bind
          (fun node => node.cardinalities.find? .physicalMachine)
        = some ⟨some 3, some 4⟩ := by
    decide +kernel
  obtain ⟨first, hfirst, hleast⟩ := Option.bind_eq_some_iff.mp hfirst
  obtain ⟨chain, hchain, hfirst⟩ := Option.bind_eq_some_iff.mp hfirst
  obtain ⟨second, hsecond, hmost⟩ := Option.bind_eq_some_iff.mp hsecond
  obtain ⟨other, hother, hsecond⟩ := Option.bind_eq_some_iff.mp hsecond
  rw [toOption_eq_some_iff] at hchain hother
  obtain ⟨_, hnodes⟩ :=
    compile_perm .standard (List.Perm.swap (boundedMachine 3 4) (boundedMachine 1 2) [])
  obtain ⟨hreordering, _⟩ :=
    (hnodes chain other hchain hother).2 .virtualMachine first second hfirst hsecond
  exact ⟨chain, other, first, second, hchain, hother, hfirst, hsecond, hreordering, hleast, hmost⟩

end SupplyGraph
