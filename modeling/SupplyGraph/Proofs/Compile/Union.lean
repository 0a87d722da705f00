import SupplyGraph.Proofs.Compile.Runs
import SupplyGraph.Proofs.Node.Union

/-!
Compilation as a union. The chain of a document is told from the documents of its single entries:
it exists when all of them compile and none contradicts another, and it holds the unions of their
nodes.
-/

namespace SupplyGraph

/-- Entries for one entity type have nodes of their own that give no provider different labels. -/
def LabelsAgree (vocabulary : Vocabulary) (entry other : Template.Entry) : Prop :=
  entry.entityType? vocabulary = other.entityType? vocabulary
  → ∀ first second,
      soleNode? vocabulary entry = some first
      → soleNode? vocabulary other = some second
      → ∀ provider left right,
          first.HasLabel provider left → second.HasLabel provider right → left = right

/-- The nodes that entries for an entity type have on their own, in order. -/
def soleNodes (vocabulary : Vocabulary) (entityType : EntityType) (entries : List Template.Entry)
    : List Node :=
  (entries.filter (fun entry => entry.entityType? vocabulary = some entityType)).filterMap
    (soleNode? vocabulary)

variable {vocabulary : Vocabulary} {entries : List Template.Entry}

theorem soleNodes_eq_filter (entityType : EntityType)
    : soleNodes vocabulary entityType entries
      = (entries.filterMap (soleNode? vocabulary)).filter
          (fun node => node.entityType = entityType) := by
  rw [soleNodes, List.filterMap_filter, List.filter_filterMap]
  refine congrArg (fun select => entries.filterMap select) (funext (fun entry => ?_))
  cases hn : soleNode? vocabulary entry with
  | none => simp
  | some node => simp [(soleNode?_spec hn).1, Option.filter]

theorem mem_soleNodes {entityType : EntityType} {node : Node}
    (h : node ∈ soleNodes vocabulary entityType entries)
    : node.entityType = entityType ∧ node.Coherent := by
  obtain ⟨entry, he, hn⟩ := List.mem_filterMap.mp h
  obtain ⟨ht, hc⟩ := soleNode?_spec hn
  have hentry := of_decide_eq_true (List.mem_filter.mp he).2
  exact ⟨Option.some.inj (ht.symm.trans hentry), hc⟩

/-- An entity type has a sole node when an entry is for it, as all entries have one. -/
theorem soleNodes_ne_nil_iff (h : ∀ entry ∈ entries, (soleNode? vocabulary entry).isSome)
    (entityType : EntityType)
    : soleNodes vocabulary entityType entries ≠ []
      ↔ ∃ entry ∈ entries, entry.entityType? vocabulary = some entityType := by
  constructor
  · intro hne
    obtain ⟨node, hm⟩ := List.exists_mem_of_ne_nil _ hne
    obtain ⟨entry, he, _⟩ := List.mem_filterMap.mp hm
    obtain ⟨he, ht⟩ := List.mem_filter.mp he
    exact ⟨entry, he, of_decide_eq_true ht⟩
  · intro hi
    obtain ⟨entry, he, ht⟩ := hi
    obtain ⟨node, hn⟩ := Option.isSome_iff_exists.mp (h entry he)
    refine List.ne_nil_of_mem (List.mem_filterMap.mpr ⟨entry, ?_, hn⟩)
    exact List.mem_filter.mpr ⟨he, decide_eq_true ht⟩

/-- Agreement of entries is agreement of the nodes that they have on their own. -/
theorem pairwise_labelsAgree_iff
    : entries.Pairwise (LabelsAgree vocabulary)
      ↔ (entries.filterMap (soleNode? vocabulary)).Pairwise Node.Compatible := by
  rw [List.pairwise_filterMap]
  refine List.Pairwise.iff (fun entry other => ?_)
  constructor
  · intro h first hf second hs ht
    obtain ⟨hft, hfc⟩ := soleNode?_spec hf
    obtain ⟨hst, hsc⟩ := soleNode?_spec hs
    rw [Node.agree_labels_iff hfc hsc]
    exact h (by rw [hft, hst, ht]) first second hf hs
  · intro h ht first second hf hs
    obtain ⟨hft, hfc⟩ := soleNode?_spec hf
    obtain ⟨hst, hsc⟩ := soleNode?_spec hs
    rw [← Node.agree_labels_iff hfc hsc]
    exact h first hf second hs (Option.some.inj (by rw [← hft, ht, hst]))

/-- An entry compiles alone when it has a node on its own. -/
theorem compile_singleton_ok_iff (entry : Template.Entry)
    : (∃ chain, compile vocabulary ⟨[entry]⟩ = .ok chain)
      ↔ (soleNode? vocabulary entry).isSome := by
  simp only [compile_singleton_eq_ok_iff, ← soleNode?_eq_some_iff, Option.isSome_iff_exists]
  exact ⟨fun ⟨_, node, hn, _⟩ => ⟨node, hn⟩, fun ⟨node, hn⟩ => ⟨_, node, hn, rfl⟩⟩

/-- The node of an entity type is the join of its sole nodes. -/
theorem node?_eq_join? {document : Template.Document} {chain : Chain}
    (h : compile vocabulary document = .ok chain) (entityType : EntityType)
    : chain.node? entityType
      = Node.join? (soleNodes vocabulary entityType document.entries) := by
  obtain ⟨_, _, rfl⟩ := compile_eq_ok_iff.mp h
  rw [Chain.node?_ofNodes, soleNodes_eq_filter]

/-- The sole nodes for an entity type agree on all labels, if the document compiles. -/
theorem pairwise_agree_soleNodes {document : Template.Document} {chain : Chain}
    (h : compile vocabulary document = .ok chain) (entityType : EntityType)
    : (soleNodes vocabulary entityType document.entries).Pairwise
        (fun first second => Labels.Agree first.labels second.labels) := by
  obtain ⟨_, hp, _⟩ := compile_eq_ok_iff.mp h
  have hfiltered := hp.filter (fun node => node.entityType = entityType)
  rw [← soleNodes_eq_filter] at hfiltered
  refine hfiltered.imp_of_mem (fun hf hs hc => ?_)
  exact hc ((mem_soleNodes hf).1.trans (mem_soleNodes hs).1.symm)

/-- An entity type has a node in the chain exactly when it has a sole node. -/
theorem mem_entityTypes_iff_ne_nil {document : Template.Document} {chain : Chain}
    (h : compile vocabulary document = .ok chain) (entityType : EntityType)
    : entityType ∈ chain.entityTypes
      ↔ soleNodes vocabulary entityType document.entries ≠ [] := by
  rw [Chain.entityTypes, SortedMap.mem_keys, Option.isSome_iff_ne_none]
  change chain.node? entityType ≠ none ↔ _
  rw [node?_eq_join? h, ne_eq, Node.join?_eq_none_iff]

/-- The node of an entity type is the union of its sole nodes. -/
theorem node?_eq_some_iff_isUnion {document : Template.Document} {chain : Chain}
    (h : compile vocabulary document = .ok chain) (entityType : EntityType) (node : Node)
    : chain.node? entityType = some node
      ↔ entityType ∈ chain.entityTypes
        ∧ node.IsUnion entityType (soleNodes vocabulary entityType document.entries) := by
  have hunion
      : ∀ joined,
          Node.join? (soleNodes vocabulary entityType document.entries) = some joined
          → joined.IsUnion entityType (soleNodes vocabulary entityType document.entries) :=
    fun joined hj => Node.isUnion_join? hj (fun node hm => (mem_soleNodes hm).1)
      (fun node hm => (mem_soleNodes hm).2) (pairwise_agree_soleNodes h entityType)
  rw [mem_entityTypes_iff_ne_nil h, node?_eq_join? h]
  constructor
  · intro hn
    refine ⟨?_, hunion node hn⟩
    intro he
    rw [he] at hn
    cases hn
  · intro hi
    obtain ⟨hne, hn⟩ := hi
    obtain ⟨joined, hj⟩ := Option.ne_none_iff_exists'.mp (mt Node.join?_eq_none_iff.mp hne)
    rw [hj, (hunion joined hj).unique hn]

/-- A document compiles exactly when each entry compiles alone and no two entries contradict each
other. Its chain has a node for the entity types of the entries only, and this node is the union of
the nodes that the entries for the type have on their own. -/
theorem compile_computes_union (vocabulary : Vocabulary) (document : Template.Document)
    : ((∃ chain, compile vocabulary document = .ok chain)
        ↔ (∀ entry ∈ document.entries, ∃ chain, compile vocabulary ⟨[entry]⟩ = .ok chain)
          ∧ document.entries.Pairwise (LabelsAgree vocabulary))
      ∧ ∀ chain,
          compile vocabulary document = .ok chain
          → ∀ entityType,
              (entityType ∈ chain.entityTypes
                ↔ ∃ entry ∈ document.entries, entry.entityType? vocabulary = some entityType)
              ∧ ∀ node,
                  chain.node? entityType = some node
                  ↔ entityType ∈ chain.entityTypes
                    ∧ node.IsUnion entityType
                        (soleNodes vocabulary entityType document.entries) := by
  refine ⟨?_, ?_⟩
  · simp only [compile_singleton_ok_iff, pairwise_labelsAgree_iff]
    simp only [compile_eq_ok_iff]
    exact ⟨fun ⟨_, hall, hp, _⟩ => ⟨hall, hp⟩, fun ⟨hall, hp⟩ => ⟨_, hall, hp, rfl⟩⟩
  · intro chain hchain entityType
    have hall := (compile_eq_ok_iff.mp hchain).1
    refine ⟨?_, fun node => node?_eq_some_iff_isUnion hchain entityType node⟩
    rw [mem_entityTypes_iff_ne_nil hchain, soleNodes_ne_nil_iff hall]

end SupplyGraph
