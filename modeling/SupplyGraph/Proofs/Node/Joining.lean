import Mathlib.Data.List.Induction
import SupplyGraph.Node.Merge
import SupplyGraph.Proofs.Labels.Agreement
import SupplyGraph.Proofs.Sorted.Gathering

/-!
Nodes joined one after the other. The merge takes the union map by map but compares the labels of
all three maps together; the labels of a merged node are nevertheless the union of the labels.
-/

namespace SupplyGraph

namespace Labels

/-- Agreement does not depend on which map is named first. -/
theorem Agree.symm {left right : Labels} (h : Agree left right)
    : Agree right left :=
  fun provider first second hf hs => (h provider second first hs hf).symm

/-- Middle maps change places in a union when what one of them adds agrees with the other. -/
theorem union_interchange (first second third fourth : Labels)
    (h
      : ∀ provider left right,
          first.find? provider = none
          → third.find? provider = some left
          → second.find? provider = some right
          → left = right)
    : SortedMap.union (SortedMap.union first second) (SortedMap.union third fourth)
      = SortedMap.union (SortedMap.union first third) (SortedMap.union second fourth) := by
  ext provider : 1
  simp only [SortedMap.find?_union]
  cases hf : first.find? provider with
  | some label => simp
  | none =>
      cases ht : third.find? provider with
      | none => simp
      | some left =>
          cases hs : second.find? provider with
          | none => simp
          | some right => simp [h provider left right hf ht hs]

end Labels

namespace Node

/-- One of the three label maps of the node has the label for the provider. -/
def HasLabel (node : Node) (provider : EntityType) (label : Relationship) : Prop :=
  node.providerLabels.find? provider = some label
  ∨ node.linkLabels.find? provider = some label
  ∨ node.hosting.find? provider = some label

/-- The label maps of the node have no two labels for one provider. -/
def Coherent (node : Node) : Prop :=
  ∀ provider first second,
    node.HasLabel provider first → node.HasLabel provider second → first = second

/-- The label of a provider is the one of its label maps, where these do not contradict. -/
theorem Coherent.find?_labels {node : Node} (h : node.Coherent) (provider : EntityType)
    (label : Relationship)
    : node.labels.find? provider = some label ↔ node.HasLabel provider label := by
  have hsome : ∀ other, node.labels.find? provider = some other → node.HasLabel provider other := by
    intro other ho
    simp only [labels, SortedMap.find?_union, Option.or_eq_some_iff] at ho
    rcases ho with (ho | ⟨_, ho⟩) | ⟨_, ho⟩
    · exact Or.inl ho
    · exact Or.inr (Or.inl ho)
    · exact Or.inr (Or.inr ho)
  refine ⟨hsome label, ?_⟩
  intro hlabel
  cases hl : node.labels.find? provider with
  | some other => rw [h provider other label (hsome other hl) hlabel]
  | none =>
      simp only [labels, SortedMap.find?_union, Option.or_eq_none_iff] at hl
      rcases hlabel with hlabel | hlabel | hlabel <;> simp_all

/-- Coherent nodes agree when no provider has different labels in any of their maps. -/
theorem agree_labels_iff {node other : Node} (hn : node.Coherent) (ho : other.Coherent)
    : Labels.Agree node.labels other.labels
      ↔ ∀ provider first second,
          node.HasLabel provider first → other.HasLabel provider second → first = second := by
  simp only [Labels.Agree, hn.find?_labels, ho.find?_labels]

/-- The labels of an extended node are those of both nodes, where the two agree. -/
theorem labels_extend {node other : Node} (h : Labels.Agree node.labels other.labels)
    : (node.extend other).labels = SortedMap.union node.labels other.labels := by
  have hfind : ∀ (node : Node) provider,
      node.labels.find? provider
        = ((node.providerLabels.find? provider).or (node.linkLabels.find? provider)).or
            (node.hosting.find? provider) := by
    intro node provider
    simp only [labels, SortedMap.find?_union]
  simp only [labels, extend]
  -- The three maps are united one by one, but the labels of each node are collapsed in turn.
  rw [Labels.union_interchange node.providerLabels, Labels.union_interchange]
  · intro provider left right hn hl hr
    refine h provider left right ?_ ?_
    · rw [hfind, ← SortedMap.find?_union, hn, hl, Option.none_or]
    · rw [hfind, ← SortedMap.find?_union, hr, Option.some_or]
  · intro provider left right hn hl hr
    refine h provider left right ?_ ?_
    · simp [hfind, hn, hl]
    · simp [hfind, hr]

/-- A node either takes in all that another one says, or it stays as it is and the least provider on
which the two differ is reported. -/
theorem absorb_cases (node other : Node)
    : (Labels.Agree node.labels other.labels ∧ node.absorb other = (node.extend other, none))
      ∨ ∃ provider existing declared,
          Labels.LeastDifference node.labels other.labels provider existing declared
          ∧ node.absorb other
            = (node, some (.conflictingNodes node.entityType provider existing declared)) := by
  rw [absorb]
  cases hd : Labels.firstDifference? node.labels other.labels with
  | none => exact .inl ⟨Labels.firstDifference?_eq_none_iff.mp hd, rfl⟩
  | some difference =>
      obtain ⟨provider, existing, declared⟩ := difference
      exact .inr ⟨provider, existing, declared, Labels.firstDifference?_eq_some_iff.mp hd, rfl⟩

/-- Nodes are merged exactly if their labels agree, and the one is extended by the other. -/
theorem merge_eq_ok_iff {node other merged : Node}
    : node.merge other = .ok merged
      ↔ Labels.Agree node.labels other.labels ∧ node.extend other = merged := by
  rw [merge]
  obtain ⟨hagree, habsorb⟩ | ⟨provider, existing, declared, hd, habsorb⟩ := absorb_cases node other
  · simp [habsorb, hagree]
  · simp [habsorb, hd.not_agree]

/-- A merge fails exactly at the least provider with different labels, which are told in order. -/
theorem merge_eq_error_iff {node other : Node} {cause : Cause}
    : node.merge other = .error cause
      ↔ ∃ provider existing declared,
          Labels.LeastDifference node.labels other.labels provider existing declared
          ∧ cause = .conflictingNodes node.entityType provider existing declared := by
  rw [merge]
  obtain ⟨hagree, habsorb⟩ | ⟨provider, existing, declared, hd, habsorb⟩ := absorb_cases node other
  · simp only [habsorb, reduceCtorEq, false_iff, not_exists, not_and]
    exact fun _ _ _ hd => absurd hagree hd.not_agree
  · simp only [habsorb, Except.error.injEq]
    constructor
    · intro h
      exact ⟨provider, existing, declared, hd, h.symm⟩
    · intro h
      obtain ⟨_, _, _, ho, rfl⟩ := h
      obtain ⟨rfl, rfl, rfl⟩ := hd.unique ho
      rfl

/-- A node that another one cannot be merged into is left as it was. -/
theorem absorb_of_merge_eq_error {node other : Node} {cause : Cause}
    (h : node.merge other = .error cause)
    : node.absorb other = (node, some cause) := by
  rw [merge] at h
  obtain ⟨_, habsorb⟩ | ⟨provider, existing, declared, _, habsorb⟩ := absorb_cases node other
  · rw [habsorb] at h
    cases h
  · rw [habsorb] at h ⊢
    rw [Except.error.inj h]

/-- The nodes of a list joined in order, if there is one. -/
def join? : List Node → Option Node
  | [] => none
  | first :: rest => some (rest.foldl extend first)

/-- The last node extends what the others are joined to. -/
theorem join?_concat (nodes : List Node) (node : Node)
    : join? (nodes ++ [node]) = some ((join? nodes).elim node (·.extend node)) := by
  cases nodes <;> simp [join?]

theorem join?_eq_none_iff {nodes : List Node}
    : join? nodes = none ↔ nodes = [] := by
  cases nodes <;> simp [join?]

/-- What holds of one node and is kept by extension holds of joined nodes, by induction from the
last node on. -/
theorem join?_induction {motive : List Node → Node → Prop} (single : ∀ node, motive [node] node)
    (step
      : ∀ nodes joined node,
          join? nodes = some joined
          → motive nodes joined
          → motive (nodes ++ [node]) (joined.extend node))
    {nodes : List Node} {joined : Node} (h : join? nodes = some joined)
    : motive nodes joined := by
  induction nodes using List.reverseRecOn generalizing joined with
  | nil => simp [join?] at h
  | append_singleton nodes node ih =>
      rw [join?_concat] at h
      obtain rfl := Option.some.inj h
      cases hj : join? nodes with
      | none =>
          obtain rfl := join?_eq_none_iff.mp hj
          exact single node
      | some previous => exact step nodes previous node hj (ih hj)

/-- What has the labels of nodes and no others agrees with a node that all of them agree with. -/
theorem agree_of_find?_labels {nodes : List Node} {joined node : Node}
    (h
      : ∀ provider label,
          joined.labels.find? provider = some label
          ↔ ∃ part ∈ nodes, part.labels.find? provider = some label)
    (ha
      : (nodes ++ [node]).Pairwise (fun first second => Labels.Agree first.labels second.labels))
    : Labels.Agree joined.labels node.labels := by
  obtain ⟨_, _, hlast⟩ := List.pairwise_append.mp ha
  intro provider first second hf hs
  obtain ⟨earlier, he, hf⟩ := (h provider first).mp hf
  exact hlast earlier he node List.mem_cons_self provider first second hf hs

/-- The labels of joined nodes are those of any of them, where all of them agree. -/
theorem find?_labels_join? {nodes : List Node} {joined : Node} (h : join? nodes = some joined)
    (ha : nodes.Pairwise (fun first second => Labels.Agree first.labels second.labels))
    (provider : EntityType) (label : Relationship)
    : joined.labels.find? provider = some label
      ↔ ∃ node ∈ nodes, node.labels.find? provider = some label := by
  refine join?_induction (motive := fun nodes joined =>
    nodes.Pairwise (fun first second => Labels.Agree first.labels second.labels)
    → ∀ provider label,
        joined.labels.find? provider = some label
        ↔ ∃ node ∈ nodes, node.labels.find? provider = some label)
    ?_ ?_ h ha provider label
  · intro node _ provider label
    simp
  · intro nodes joined node _ ih ha provider label
    have hjoined := ih (List.pairwise_append.mp ha).1
    -- The last node has no other label for a provider that the nodes before it have a label for.
    have hagree := agree_of_find?_labels hjoined ha
    rw [labels_extend hagree, SortedMap.find?_union]
    simp only [List.mem_append, List.mem_singleton, or_and_right, exists_or, exists_eq_left,
      ← hjoined]
    cases hj : joined.labels.find? provider with
    | none => simp
    | some existing =>
        simp only [Option.some_or]
        refine ⟨Or.inl, ?_⟩
        intro hi
        rcases hi with h | h
        · exact h
        · rw [hagree provider existing label hj h]

/-- Joined nodes agree with a node that all of them agree with. -/
theorem agree_labels_join? {nodes : List Node} {joined node : Node} (h : join? nodes = some joined)
    (ha
      : (nodes ++ [node]).Pairwise (fun first second => Labels.Agree first.labels second.labels))
    : Labels.Agree joined.labels node.labels :=
  agree_of_find?_labels (find?_labels_join? h (List.pairwise_append.mp ha).1) ha

end Node

end SupplyGraph
