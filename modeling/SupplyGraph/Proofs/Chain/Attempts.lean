import SupplyGraph.Proofs.Chain.Assembly

/-!
Rows of nodes of which some are refused. Any node may be tried, even one whose label maps contradict
each other. A node that is refused leaves no trace, and those that are accepted make up a chain
whose labels are all of theirs.
-/

namespace SupplyGraph

namespace Node

/-- The label that counts for a provider: the one from the bought groups, or else the one from the
links, or else the one of the hosting map. -/
def effectiveLabel? (node : Node) (provider : EntityType) : Option Relationship :=
  match node.providerLabels.find? provider with
  | some label => some label
  | none =>
      match node.linkLabels.find? provider with
      | some label => some label
      | none => node.hosting.find? provider

/-- Both nodes have a label that counts for the provider, and it is not the same. -/
def DiffersAt (node other : Node) (provider : EntityType) : Prop :=
  ∃ first second,
    node.effectiveLabel? provider = some first
    ∧ other.effectiveLabel? provider = some second
    ∧ first ≠ second

/-- The labels of a node that are compared are its effective ones. -/
theorem find?_labels (node : Node) (provider : EntityType)
    : node.labels.find? provider = node.effectiveLabel? provider := by
  simp only [labels, SortedMap.find?_union, effectiveLabel?]
  cases node.providerLabels.find? provider with
  | some label => simp
  | none => cases node.linkLabels.find? provider <;> simp

/-- Labels agree when the nodes differ at no provider. -/
theorem agree_labels_iff_forall_not_differsAt {node other : Node}
    : Labels.Agree node.labels other.labels ↔ ∀ provider, ¬ node.DiffersAt other provider := by
  simp only [Labels.Agree, find?_labels, DiffersAt, not_exists, not_and, not_not]

/-- Joined nodes are for the entity type that all of them are for. -/
theorem entityType_join? {entityType : EntityType} {nodes : List Node} {joined : Node}
    (h : join? nodes = some joined) (ht : ∀ node ∈ nodes, node.entityType = entityType)
    : joined.entityType = entityType := by
  refine join?_induction (motive := fun nodes joined =>
    (∀ node ∈ nodes, node.entityType = entityType) → joined.entityType = entityType) ?_ ?_ h ht
  · intro node ht
    exact ht node List.mem_cons_self
  · intro nodes joined node _ ih ht
    exact ih (fun other ho => ht other (List.mem_append_left _ ho))

end Node

namespace Chain

/-- The chain after a node was tried, whether it was taken in or refused. -/
def attempt (chain : Chain) (node : Node) : Chain := (chain.absorb node).1

/-- The nodes of a row that a chain takes in, one after the other. -/
def acceptedBy (chain : Chain) : List Node → List Node
  | [] => []
  | node :: rest =>
      match chain.absorb node with
      | (next, none) => node :: acceptedBy next rest
      | (next, some _) => acceptedBy next rest

/-- The chain after all nodes of a row were tried in order. -/
def ofAttempts (nodes : List Node) : Chain := nodes.foldl attempt ∅

/-- The nodes of a row that are accepted when they are tried in order. -/
def accepted (nodes : List Node) : List Node := acceptedBy ∅ nodes

/-- What is accepted of two lists in turn depends on the chain after the first one. -/
theorem acceptedBy_append (chain : Chain) (front back : List Node)
    : acceptedBy chain (front ++ back)
      = acceptedBy chain front ++ acceptedBy (front.foldl attempt chain) back := by
  induction front generalizing chain with
  | nil => rfl
  | cons node rest ih =>
      simp only [List.cons_append, acceptedBy, List.foldl_cons, attempt]
      obtain ⟨next, fault⟩ := chain.absorb node
      cases fault <;> simp [ih]

/-- What is refused makes no difference to whatever is tried later. -/
theorem ofAttempts_refused {front : List Node} {node : Node} {fault : Fault}
    (h : (ofAttempts front).fold node = .error fault) (back : List Node)
    : ofAttempts (front ++ node :: back) = ofAttempts (front ++ back)
      ∧ accepted (front ++ node :: back) = accepted (front ++ back) := by
  have hattempt : (ofAttempts front).attempt node = ofAttempts front := by
    rw [attempt, absorb_of_fold_eq_error h]
  constructor
  · rw [ofAttempts, List.foldl_append, List.foldl_cons]
    change back.foldl attempt ((ofAttempts front).attempt node) = _
    rw [hattempt, ofAttempts, ofAttempts, List.foldl_append]
  · rw [accepted, acceptedBy_append, accepted, acceptedBy_append]
    change _ ++ acceptedBy (ofAttempts front) (node :: back) = _
    rw [acceptedBy, absorb_of_fold_eq_error h]
    rfl

/-- Trying nodes behind others that agree, by induction on the nodes still to be tried: those that
are accepted agree with all accepted before, and the chain takes in them alone. -/
theorem foldl_attempt_ofNodes (done : List Node) (h : done.Pairwise Node.Compatible)
    (nodes : List Node)
    : (done ++ acceptedBy (ofNodes done) nodes).Pairwise Node.Compatible
      ∧ nodes.foldl attempt (ofNodes done) = ofNodes (done ++ acceptedBy (ofNodes done) nodes) := by
  induction nodes generalizing done with
  | nil => simpa [acceptedBy] using h
  | cons node rest ih =>
      simp only [List.foldl_cons, attempt, acceptedBy]
      cases hf : (ofNodes done).fold node with
      | error fault =>
          simp only [absorb_of_fold_eq_error hf]
          exact ih done h
      | ok next =>
          obtain ⟨hnode, rfl⟩ := (fold_ofNodes_eq_ok_iff h).mp hf
          have hlonger : (done ++ [node]).Pairwise Node.Compatible := by
            simpa [List.pairwise_append, h] using hnode
          simp only [absorb_of_fold_eq_ok hf]
          simpa using ih (done ++ [node]) hlonger

/-- Nodes that were accepted agree with each other. -/
theorem pairwise_accepted (nodes : List Node)
    : (accepted nodes).Pairwise Node.Compatible :=
  (foldl_attempt_ofNodes [] List.Pairwise.nil nodes).1

/-- The chain of a row is the chain of the nodes that are accepted. -/
theorem ofAttempts_eq_ofNodes (nodes : List Node)
    : ofAttempts nodes = ofNodes (accepted nodes) :=
  (foldl_attempt_ofNodes [] List.Pairwise.nil nodes).2

/-- The node under an entity type is for this type and has the effective labels of the accepted
nodes for it, and no others. -/
theorem node?_ofAttempts {nodes : List Node} {entityType : EntityType} {stored : Node}
    (h : (ofAttempts nodes).node? entityType = some stored)
    : stored.entityType = entityType
      ∧ ∀ provider label,
          stored.effectiveLabel? provider = some label
          ↔ ∃ part ∈ accepted nodes,
              part.entityType = entityType ∧ part.effectiveLabel? provider = some label := by
  rw [ofAttempts_eq_ofNodes] at h
  constructor
  · rw [node?_ofNodes] at h
    exact Node.entityType_join? h (fun node hm => of_decide_eq_true (List.mem_filter.mp hm).2)
  · intro provider label
    simp only [← Node.find?_labels]
    exact find?_labels_ofNodes h (pairwise_accepted nodes) provider label

/-- The chain has a node for exactly the types of the accepted nodes. -/
theorem isSome_node?_ofAttempts_iff (nodes : List Node) (entityType : EntityType)
    : ((ofAttempts nodes).node? entityType).isSome
      ↔ ∃ part ∈ accepted nodes, part.entityType = entityType := by
  rw [ofAttempts_eq_ofNodes, node?_ofNodes, Option.isSome_iff_ne_none, ne_eq,
    Node.join?_eq_none_iff, List.filter_eq_nil_iff]
  simp

/-- A node is refused exactly when it differs from an accepted node for the same entity type. -/
theorem fold_ofAttempts_error_iff (nodes : List Node) (node : Node)
    : (∃ fault, (ofAttempts nodes).fold node = .error fault)
      ↔ ∃ earlier ∈ accepted nodes,
          earlier.entityType = node.entityType
          ∧ ∃ provider, earlier.DiffersAt node provider := by
  have hok
      : (∃ next, (ofAttempts nodes).fold node = .ok next)
        ↔ ∀ earlier ∈ accepted nodes, earlier.Compatible node := by
    rw [ofAttempts_eq_ofNodes]
    simp only [fold_ofNodes_eq_ok_iff (pairwise_accepted nodes), exists_and_left,
      exists_eq', and_true]
  have hnot
      : (∃ fault, (ofAttempts nodes).fold node = .error fault)
        ↔ ¬ ∃ next, (ofAttempts nodes).fold node = .ok next := by
    cases (ofAttempts nodes).fold node <;> simp
  rw [hnot, hok]
  simp only [Node.Compatible, Node.agree_labels_iff_forall_not_differsAt, not_forall, not_not,
    exists_prop]

/-- The fault of a node that is refused names the least provider at which it differs from the node
that is stored for its entity type. -/
theorem fault_of_fold_ofAttempts {nodes : List Node} {node : Node} {fault : Fault}
    (h : (ofAttempts nodes).fold node = .error fault)
    : ∃ stored provider existing declared,
        (ofAttempts nodes).node? node.entityType = some stored
        ∧ stored.effectiveLabel? provider = some existing
        ∧ node.effectiveLabel? provider = some declared
        ∧ existing ≠ declared
        ∧ (∀ smaller < provider, ¬ stored.DiffersAt node smaller)
        ∧ fault
          = ⟨[.field "templateClass"],
              .conflictingNodes node.entityType provider existing declared⟩ := by
  obtain ⟨stored, provider, existing, declared, hstored, hleast, rfl⟩ := fold_eq_error_iff.mp h
  rw [(node?_ofAttempts hstored).1]
  refine ⟨stored, provider, existing, declared, hstored, ?_, ?_, hleast.differ, ?_, rfl⟩
  · rw [← Node.find?_labels, hleast.existingLabel]
  · rw [← Node.find?_labels, hleast.incomingLabel]
  · intro smaller hlt hdiffers
    obtain ⟨first, second, hf, hs, hne⟩ := hdiffers
    rw [← Node.find?_labels] at hf hs
    exact hne (hleast.least smaller hlt first second hf hs)

/-- Whatever nodes are tried, one more is refused exactly when it differs from one that was accepted
for its entity type. The fault names the least provider at which it does; the chain stays as it is
and goes on as if the node had never been tried. The chain has nodes for the entity types of
accepted nodes, with the labels of all of these. -/
theorem ofAttempts_accepts_agreeing_nodes (nodes : List Node)
    : (∀ node,
        ((∃ fault, (ofAttempts nodes).fold node = .error fault)
          ↔ ∃ earlier ∈ accepted nodes,
              earlier.entityType = node.entityType
              ∧ ∃ provider, earlier.DiffersAt node provider)
        ∧ ∀ fault,
            (ofAttempts nodes).fold node = .error fault
            → (∃ stored provider existing declared,
                (ofAttempts nodes).node? node.entityType = some stored
                ∧ stored.effectiveLabel? provider = some existing
                ∧ node.effectiveLabel? provider = some declared
                ∧ existing ≠ declared
                ∧ (∀ smaller < provider, ¬ stored.DiffersAt node smaller)
                ∧ fault
                  = ⟨[.field "templateClass"],
                      .conflictingNodes node.entityType provider existing declared⟩)
              ∧ (ofAttempts nodes).absorb node = (ofAttempts nodes, some fault)
              ∧ ∀ later,
                  ofAttempts (nodes ++ node :: later) = ofAttempts (nodes ++ later)
                  ∧ accepted (nodes ++ node :: later) = accepted (nodes ++ later))
      ∧ ∀ entityType,
          (((ofAttempts nodes).node? entityType).isSome
            ↔ ∃ part ∈ accepted nodes, part.entityType = entityType)
          ∧ ∀ stored,
              (ofAttempts nodes).node? entityType = some stored
              → stored.entityType = entityType
                ∧ ∀ provider label,
                    stored.effectiveLabel? provider = some label
                    ↔ ∃ part ∈ accepted nodes,
                        part.entityType = entityType
                        ∧ part.effectiveLabel? provider = some label := by
  refine ⟨fun node => ⟨fold_ofAttempts_error_iff nodes node, fun fault hfault => ?_⟩,
    fun entityType => ⟨isSome_node?_ofAttempts_iff nodes entityType, fun stored hstored => ?_⟩⟩
  · exact ⟨fault_of_fold_ofAttempts hfault, absorb_of_fold_eq_error hfault,
      ofAttempts_refused hfault⟩
  · exact node?_ofAttempts hstored

/-- A machine whose only link gives its host a label. -/
def labelledMachine (label : Relationship) : Node where
  entityType := .virtualMachine
  linkLabels := SortedMap.ofList [(.physicalMachine, label)]

/-- A machine with a contrary label is refused; the chain stays as it is, now and for all nodes
after it. -/
theorem ofAttempts_accepts_agreeing_nodes_labelledMachine
    : (ofAttempts [labelledMachine .hosting]).absorb (labelledMachine .layeredOver)
        = (ofAttempts [labelledMachine .hosting],
            some ⟨[.field "templateClass"],
              .conflictingNodes .virtualMachine .physicalMachine .hosting .layeredOver⟩)
      ∧ ∀ later,
          ofAttempts (labelledMachine .hosting :: labelledMachine .layeredOver :: later)
          = ofAttempts (labelledMachine .hosting :: later) := by
  have hrefused
      : (ofAttempts [labelledMachine .hosting]).fold (labelledMachine .layeredOver)
        = .error ⟨[.field "templateClass"],
            .conflictingNodes .virtualMachine .physicalMachine .hosting .layeredOver⟩ := by
    decide +kernel
  obtain ⟨_, hunchanged, hlater⟩ :=
    ((ofAttempts_accepts_agreeing_nodes [labelledMachine .hosting]).1 _).2 _ hrefused
  exact ⟨hunchanged, fun later => (hlater later).1⟩

end Chain

end SupplyGraph
