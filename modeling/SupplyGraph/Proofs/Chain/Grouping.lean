import SupplyGraph.Proofs.Chain.Assembly

/-!
Groups in a row of nodes. Extension is associative, so that neighbours may be joined before all
others, and they agree with a node exactly when both of them do. The templates of a node have no
influence on the rest of it.
-/

namespace SupplyGraph

theorem SortedSet.union_assoc {κ : Type} [Key κ] (first second third : SortedSet κ)
    : first ∪ second ∪ third = first ∪ (second ∪ third) := by
  ext value
  simp only [SortedSet.mem_union, or_assoc]

namespace SortedMap

variable {κ α : Type} [Key κ]

theorem union_assoc (first second third : SortedMap κ α)
    : union (union first second) third = union first (union second third) := by
  ext key : 1
  simp only [find?_union, Option.or_assoc]

theorem unionWith_assoc [Key α] (first second third : SortedMap κ (SortedSet α))
    : unionWith (· ∪ ·) (unionWith (· ∪ ·) first second) third
      = unionWith (· ∪ ·) first (unionWith (· ∪ ·) second third) := by
  apply ext_sets
  · intro key
    simp only [mem_keys_unionWith, or_assoc]
  · intro key value
    simp only [mem_setAt_unionWith, or_assoc]

end SortedMap

/-- A union of agreeing labels agrees with other labels exactly when both its parts do. -/
theorem Labels.agree_union_iff {left right other : Labels} (h : Agree left right)
    : Agree other (SortedMap.union left right) ↔ Agree other left ∧ Agree other right := by
  simp only [Agree, SortedMap.find?_union, Option.or_eq_some_iff]
  constructor
  · intro hu
    refine ⟨fun provider label first hf hs => hu provider label first hf (Or.inl hs), ?_⟩
    intro provider label second hf hs
    cases hl : left.find? provider with
    | none => exact hu provider label second hf (Or.inr ⟨hl, hs⟩)
    | some first => rw [← h provider first second hl hs, hu provider label first hf (Or.inl hl)]
  · intro hi provider label found hf hp
    obtain ⟨hl, hr⟩ := hi
    rcases hp with hs | ⟨_, hs⟩
    · exact hl provider label found hf hs
    · exact hr provider label found hf hs

namespace Node

/-- Nodes may be joined in any grouping, as each of their fields may be. -/
theorem extend_assoc (first second third : Node)
    : (first.extend second).extend third = first.extend (second.extend third) := by
  simp only [extend, SortedSet.union_assoc, SortedMap.union_assoc, SortedMap.unionWith_assoc,
    List.append_assoc]

/-- The node with other templates. -/
def withTemplates (node : Node) (templates : List TemplateMeta) : Node :=
  { node with templates }

/-- Joined nodes have the templates of all of them in order. -/
theorem templates_join? {nodes : List Node} {joined : Node} (h : join? nodes = some joined)
    : joined.templates = nodes.flatMap Node.templates := by
  refine join?_induction
    (motive := fun nodes joined => joined.templates = nodes.flatMap Node.templates) ?_ ?_ h
  · intro node
    simp
  · intro nodes joined node _ ih
    simp [extend, ih]

/-- Neighbours may be joined before the nodes around them. -/
theorem join?_group (front back : List Node) (first second : Node)
    : join? (front ++ first.extend second :: back) = join? (front ++ first :: second :: back) := by
  cases front with
  | nil => rfl
  | cons head rest =>
      simp only [List.cons_append, join?, List.foldl_append, List.foldl_cons, extend_assoc]

/-- A node with other templates leads to joined nodes with other templates, by induction from the
last node on. -/
theorem join?_withTemplates (front back : List Node) (node : Node) (templates : List TemplateMeta)
    : join? (front ++ node.withTemplates templates :: back)
      = (join? (front ++ node :: back)).map (fun joined =>
          joined.withTemplates
            (front.flatMap Node.templates ++ templates ++ back.flatMap Node.templates)) := by
  induction back using List.reverseRecOn with
  | nil =>
      rw [join?_concat, join?_concat]
      cases hj : join? front with
      | none =>
          obtain rfl := join?_eq_none_iff.mp hj
          simp [withTemplates]
      | some joined => simp [withTemplates, extend, ← templates_join? hj]
  | append_singleton back last ih =>
      simp only [← List.cons_append, ← List.append_assoc] at ih ⊢
      rw [join?_concat, join?_concat, ih]
      cases hj : join? (front ++ node :: back) with
      | none => exact absurd (join?_eq_none_iff.mp hj) (by simp)
      | some joined => simp [withTemplates, extend]

/-- It does not matter which of two nodes the other one is held against. -/
theorem Compatible.symm {node other : Node} (h : node.Compatible other)
    : other.Compatible node :=
  fun ht => (h ht.symm).symm

variable {first second : Node} {templates : List TemplateMeta}

/-- A node is compatible with a group exactly when it is compatible with both members. -/
theorem compatible_group_iff (ht : second.entityType = first.entityType)
    (h : Labels.Agree first.labels second.labels) {other : Node}
    : other.Compatible ((first.extend second).withTemplates templates)
      ↔ other.Compatible first ∧ other.Compatible second := by
  have hlabels
      : ((first.extend second).withTemplates templates).labels
        = SortedMap.union first.labels second.labels :=
    labels_extend h
  simp only [Compatible, hlabels, Labels.agree_union_iff h, ht]
  exact forall_and

/-- A group has its place in a row of compatible nodes exactly when its members have. -/
theorem pairwise_group_iff (ht : second.entityType = first.entityType)
    (h : Labels.Agree first.labels second.labels) {front back : List Node}
    : (front ++ (first.extend second).withTemplates templates :: back).Pairwise Compatible
      ↔ (front ++ first :: second :: back).Pairwise Compatible := by
  have hback
      : ∀ other,
          ((first.extend second).withTemplates templates).Compatible other
          ↔ first.Compatible other ∧ second.Compatible other := by
    intro other
    have hgroup
        : other.Compatible ((first.extend second).withTemplates templates)
          ↔ other.Compatible first ∧ other.Compatible second :=
      compatible_group_iff ht h
    exact ⟨fun hc => (hgroup.mp hc.symm).imp .symm .symm,
      fun hc => (hgroup.mpr (hc.imp .symm .symm)).symm⟩
  simp only [List.pairwise_append, List.pairwise_cons, List.forall_mem_cons, hback,
    compatible_group_iff ht h]
  constructor
  · intro hi
    obtain ⟨hfront, ⟨hgroup, hrest⟩, hcross⟩ := hi
    refine ⟨hfront, ⟨⟨fun _ => h, fun other ho => (hgroup other ho).1⟩,
      fun other ho => (hgroup other ho).2, hrest⟩, fun other ho => ?_⟩
    obtain ⟨⟨hof, hos⟩, hob⟩ := hcross other ho
    exact ⟨hof, hos, hob⟩
  · intro hi
    obtain ⟨hfront, ⟨⟨_, hfirst⟩, hsecond, hrest⟩, hcross⟩ := hi
    refine ⟨hfront, ⟨fun other ho => ⟨hfirst other ho, hsecond other ho⟩, hrest⟩,
      fun other ho => ?_⟩
    obtain ⟨hof, hos, hob⟩ := hcross other ho
    exact ⟨⟨hof, hos⟩, hob⟩

end Node

namespace Chain

variable (front back : List Node) {first second : Node} (templates : List TemplateMeta)

/-- A group makes no difference to the nodes for other entity types. -/
theorem node?_group_of_ne (ht : second.entityType = first.entityType) {entityType : EntityType}
    (hne : first.entityType ≠ entityType)
    : (ofNodes (front ++ (first.extend second).withTemplates templates :: back)).node? entityType
      = (ofNodes (front ++ first :: second :: back)).node? entityType := by
  have hsecond : second.entityType ≠ entityType := by rwa [ht]
  have hgroup : ((first.extend second).withTemplates templates).entityType ≠ entityType := hne
  simp only [node?_ofNodes, List.filter_append, List.filter_cons, hne, hsecond, hgroup,
    decide_false, Bool.false_eq_true, if_false]

/-- A group makes no difference to the node for its own entity type but in the templates. -/
theorem node?_group (ht : second.entityType = first.entityType)
    : ∃ node : Node,
        (ofNodes (front ++ (first.extend second).withTemplates templates :: back)).node?
            first.entityType
          = some (node.withTemplates
              ((front.filter (fun other => other.entityType = first.entityType)).flatMap
                  Node.templates
                ++ templates
                ++ (back.filter (fun other => other.entityType = first.entityType)).flatMap
                  Node.templates))
        ∧ (ofNodes (front ++ first :: second :: back)).node? first.entityType
          = some (node.withTemplates
              ((front.filter (fun other => other.entityType = first.entityType)).flatMap
                  Node.templates
                ++ (first.templates ++ second.templates)
                ++ (back.filter (fun other => other.entityType = first.entityType)).flatMap
                  Node.templates)) := by
  have hgroup
      : ((first.extend second).withTemplates templates).entityType = first.entityType := rfl
  simp only [node?_ofNodes, List.filter_append, List.filter_cons, ht, hgroup, decide_true, if_true,
    Node.join?_withTemplates, Node.join?_group]
  -- From here on only the nodes for this entity type matter.
  generalize front.filter _ = front
  generalize back.filter _ = back
  cases hj : Node.join? (front ++ first :: second :: back) with
  | none => exact absurd (Node.join?_eq_none_iff.mp hj) (by simp)
  | some joined =>
      have htemplates
          : joined.templates
            = front.flatMap Node.templates ++ (first.templates ++ second.templates)
              ++ back.flatMap Node.templates := by
        simp [Node.templates_join? hj]
      refine ⟨joined, rfl, ?_⟩
      rw [← htemplates]
      rfl

end Chain

end SupplyGraph
