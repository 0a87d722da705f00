import SupplyGraph.Chain
import SupplyGraph.Proofs.Node.Joining

/-!
Chains assembled from nodes. A chain that took in every node of a list holds the join of the nodes
for each entity type; it takes in one node more exactly when this one agrees with all before it.
-/

namespace SupplyGraph

/-- Nodes for one entity type give no provider different labels. -/
def Node.Compatible (node other : Node) : Prop :=
  node.entityType = other.entityType → Labels.Agree node.labels other.labels

namespace Chain

/-- The chain after a node was added, whatever its labels are. -/
def extendWith (chain : Chain) (node : Node) : Chain :=
  ⟨chain.nodes.insert node.entityType
    ((chain.node? node.entityType).elim node (fun present => present.extend node))⟩

/-- A chain either takes in a node, or it stays as it is and the least provider on which the node
and the present one differ is reported. -/
theorem absorb_cases (chain : Chain) (node : Node)
    : ((∀ present,
          chain.node? node.entityType = some present
          → Labels.Agree present.labels node.labels)
        ∧ chain.absorb node = (chain.extendWith node, none))
      ∨ ∃ present provider existing declared,
          chain.node? node.entityType = some present
          ∧ Labels.LeastDifference present.labels node.labels provider existing declared
          ∧ chain.absorb node
            = (chain,
                some ⟨[.field "templateClass"],
                  .conflictingNodes present.entityType provider existing declared⟩) := by
  simp only [absorb, extendWith, node?]
  cases hpresent : chain.nodes.find? node.entityType with
  | none => simp
  | some present =>
      obtain ⟨hagree, habsorb⟩ | ⟨provider, existing, declared, hd, habsorb⟩ :=
        present.absorb_cases node
      · simp [habsorb, hagree]
      · refine .inr ⟨present, provider, existing, declared, rfl, hd, ?_⟩
        -- The place of a node that refuses is written over, with what was there before.
        simp [habsorb, SortedMap.insert_of_find? hpresent]

/-- A node is folded into a chain exactly when it agrees with the node that is there. -/
theorem fold_eq_ok_iff {chain next : Chain} {node : Node}
    : chain.fold node = .ok next
      ↔ (∀ present,
          chain.node? node.entityType = some present
          → Labels.Agree present.labels node.labels)
        ∧ chain.extendWith node = next := by
  rw [fold]
  obtain ⟨hagree, habsorb⟩ | ⟨present, _, _, _, hpresent, hd, habsorb⟩ := chain.absorb_cases node
  · simp only [habsorb, Except.ok.injEq]
    exact (and_iff_right hagree).symm
  · simp only [habsorb, reduceCtorEq, false_iff, not_and]
    exact fun hagree => absurd (hagree present hpresent) hd.not_agree

/-- A node is refused exactly for the least provider on which it and the present node differ. -/
theorem fold_eq_error_iff {chain : Chain} {node : Node} {fault : Fault}
    : chain.fold node = .error fault
      ↔ ∃ present provider existing declared,
          chain.node? node.entityType = some present
          ∧ Labels.LeastDifference present.labels node.labels provider existing declared
          ∧ fault = ⟨[.field "templateClass"],
              .conflictingNodes present.entityType provider existing declared⟩ := by
  rw [fold]
  obtain ⟨hagree, habsorb⟩ | ⟨present, provider, existing, declared, hpresent, hd, habsorb⟩ :=
    chain.absorb_cases node
  · simp only [habsorb, reduceCtorEq, false_iff, not_exists, not_and]
    exact fun present _ _ _ hpresent hd => absurd (hagree present hpresent) hd.not_agree
  · simp only [habsorb, Except.error.injEq]
    constructor
    · intro h
      exact ⟨present, provider, existing, declared, hpresent, hd, h.symm⟩
    · intro h
      obtain ⟨other, _, _, _, hother, ho, rfl⟩ := h
      obtain rfl := Option.some.inj (hpresent.symm.trans hother)
      obtain ⟨rfl, rfl, rfl⟩ := hd.unique ho
      rfl

/-- A node that is folded in is taken in by the chain without a fault. -/
theorem absorb_of_fold_eq_ok {chain next : Chain} {node : Node} (h : chain.fold node = .ok next)
    : chain.absorb node = (next, none) := by
  rw [fold] at h
  split at h
  next reached habsorb => rw [habsorb, Except.ok.inj h]
  next => cases h

/-- A chain that refuses a node is left as it was. -/
theorem absorb_of_fold_eq_error {chain : Chain} {node : Node} {fault : Fault}
    (h : chain.fold node = .error fault)
    : chain.absorb node = (chain, some fault) := by
  rw [fold] at h
  obtain ⟨_, habsorb⟩ | ⟨_, _, _, _, _, _, habsorb⟩ := chain.absorb_cases node
  · rw [habsorb] at h
    cases h
  · rw [habsorb] at h ⊢
    rw [Except.error.inj h]

/-- The chain that took in all nodes of a list in order, whatever their labels are. -/
def ofNodes (nodes : List Node) : Chain := nodes.foldl extendWith ∅

theorem ofNodes_concat (nodes : List Node) (node : Node)
    : ofNodes (nodes ++ [node]) = (ofNodes nodes).extendWith node := by
  simp [ofNodes]

/-- Every entity type has the join of its nodes, by induction from the last node on. -/
theorem node?_ofNodes (nodes : List Node) (entityType : EntityType)
    : (ofNodes nodes).node? entityType
      = Node.join? (nodes.filter (fun node => node.entityType = entityType)) := by
  induction nodes using List.reverseRecOn generalizing entityType with
  | nil => rfl
  | append_singleton nodes node ih =>
      rw [ofNodes_concat, List.filter_append]
      simp only [extendWith, node?, SortedMap.find?_insert] at ih ⊢
      by_cases ht : entityType = node.entityType
      · subst ht
        simp [ih, Node.join?_concat]
      · simp [ht, Ne.symm ht, ih]

/-- The node under an entity type has the labels of all nodes for it, where these agree. -/
theorem find?_labels_ofNodes {nodes : List Node} {entityType : EntityType} {node : Node}
    (h : (ofNodes nodes).node? entityType = some node) (hc : nodes.Pairwise Node.Compatible)
    (provider : EntityType) (label : Relationship)
    : node.labels.find? provider = some label
      ↔ ∃ other ∈ nodes,
          other.entityType = entityType ∧ other.labels.find? provider = some label := by
  rw [node?_ofNodes] at h
  have ha
      : (nodes.filter (fun node => node.entityType = entityType)).Pairwise
          (fun first second => Labels.Agree first.labels second.labels) := by
    rw [List.pairwise_filter]
    refine hc.imp ?_
    intro first second hc hf hs
    exact hc ((of_decide_eq_true hf).trans (of_decide_eq_true hs).symm)
  rw [Node.find?_labels_join? h ha]
  simp [List.mem_filter, and_assoc]

/-- One node more is taken in exactly when it agrees with all nodes that were taken in. -/
theorem fold_ofNodes_eq_ok_iff {nodes : List Node} (hc : nodes.Pairwise Node.Compatible)
    {node : Node} {next : Chain}
    : (ofNodes nodes).fold node = .ok next
      ↔ (∀ earlier ∈ nodes, earlier.Compatible node) ∧ ofNodes (nodes ++ [node]) = next := by
  rw [fold_eq_ok_iff, ofNodes_concat]
  refine and_congr_left (fun _ => ?_)
  -- The node that is there has the labels of all nodes that it was joined from, and no others.
  constructor
  · intro h earlier he ht provider first second hf hs
    cases hp : (ofNodes nodes).node? node.entityType with
    | none =>
        rw [node?_ofNodes, Node.join?_eq_none_iff, List.filter_eq_nil_iff] at hp
        exact absurd (decide_eq_true ht) (hp earlier he)
    | some present =>
        refine h present hp provider first second ?_ hs
        exact (find?_labels_ofNodes hp hc provider first).mpr ⟨earlier, he, ht, hf⟩
  · intro h present hp provider first second hf hs
    obtain ⟨earlier, he, ht, hf⟩ := (find?_labels_ofNodes hp hc provider first).mp hf
    exact h earlier he ht provider first second hf hs

end Chain

end SupplyGraph
