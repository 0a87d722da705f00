import SupplyGraph.Proofs.Chain.Grouping
import SupplyGraph.Proofs.Entry.Resolution

/-!
Merging of any nodes, even of such whose label maps contradict each other. It does not matter which
of three nodes are merged first, and a node takes in a copy of itself without any change but to its
rows. A merge drops no label of nodes that do not contradict themselves; where one does, a label may
be hidden by another one of the same node, and then nobody compares it.
-/

namespace SupplyGraph

-----------------------------------------------------------------------------------------
-- Unions with themselves
-----------------------------------------------------------------------------------------

theorem SortedSet.union_self {κ : Type} [Key κ] (set : SortedSet κ)
    : set ∪ set = set := by
  ext value
  simp only [SortedSet.mem_union, or_self]

namespace SortedMap

variable {κ α : Type} [Key κ]

theorem union_self (map : SortedMap κ α)
    : union map map = map := by
  ext key : 1
  simp only [find?_union, Option.or_self]

/-- A map of sets united with itself is the same map. -/
theorem unionWith_self [Key α] (map : SortedMap κ (SortedSet α))
    : unionWith (· ∪ ·) map map = map := by
  apply ext_sets
  · intro key
    simp only [mem_keys_unionWith, or_self]
  · intro key value
    simp only [mem_setAt_unionWith, or_self]

end SortedMap

theorem Labels.agree_self (labels : Labels)
    : Agree labels labels := by
  intro provider first second hf hs
  exact Option.some.inj (hf.symm.trans hs)

namespace Node

-----------------------------------------------------------------------------------------
-- Three nodes
-----------------------------------------------------------------------------------------

/-- A third node is merged into two merged ones exactly when no two of the three disagree. -/
theorem merge_then_merge_eq_ok_iff {first second third merged : Node}
    : (first.merge second >>= fun joined => joined.merge third) = .ok merged
      ↔ (Labels.Agree first.labels second.labels
          ∧ Labels.Agree first.labels third.labels
          ∧ Labels.Agree second.labels third.labels)
        ∧ (first.extend second).extend third = merged := by
  simp only [bind_eq_ok_iff, merge_eq_ok_iff, and_assoc]
  constructor
  · intro h
    obtain ⟨_, hagree, rfl, hthird, hmerged⟩ := h
    rw [labels_extend hagree] at hthird
    obtain ⟨hf, hs⟩ := (Labels.agree_union_iff hagree).mp hthird.symm
    exact ⟨hagree, hf.symm, hs.symm, hmerged⟩
  · intro h
    obtain ⟨hagree, hf, hs, hmerged⟩ := h
    refine ⟨_, hagree, rfl, ?_, hmerged⟩
    rw [labels_extend hagree]
    exact ((Labels.agree_union_iff hagree).mpr ⟨hf.symm, hs.symm⟩).symm

/-- Two merged nodes are merged into a third one exactly when no two of the three disagree. -/
theorem merge_of_merged_eq_ok_iff {first second third merged : Node}
    : (second.merge third >>= fun joined => first.merge joined) = .ok merged
      ↔ (Labels.Agree first.labels second.labels
          ∧ Labels.Agree first.labels third.labels
          ∧ Labels.Agree second.labels third.labels)
        ∧ first.extend (second.extend third) = merged := by
  simp only [bind_eq_ok_iff, merge_eq_ok_iff, and_assoc]
  constructor
  · intro h
    obtain ⟨_, hagree, rfl, hfirst, hmerged⟩ := h
    rw [labels_extend hagree] at hfirst
    obtain ⟨hs, ht⟩ := (Labels.agree_union_iff hagree).mp hfirst
    exact ⟨hs, ht, hagree, hmerged⟩
  · intro h
    obtain ⟨hs, ht, hagree, hmerged⟩ := h
    refine ⟨_, hagree, rfl, ?_, hmerged⟩
    rw [labels_extend hagree]
    exact (Labels.agree_union_iff hagree).mpr ⟨hs, ht⟩

/-- A node extended by itself has its rows twice and is the same otherwise. -/
theorem extend_self (node : Node)
    : node.extend node
      = { node with
          links := node.links ++ node.links
          templates := node.templates ++ node.templates } := by
  simp only [extend, SortedSet.union_self, SortedMap.union_self, SortedMap.unionWith_self]

/-- Merging is associative on all nodes: whichever two neighbours are merged first, both ways come
to the same node or both fail. A copy of a node is always merged into it and adds nothing but its
links and templates. -/
theorem merge_associates_and_absorbs (first second third : Node)
    : (∀ merged,
        (first.merge second >>= fun joined => joined.merge third) = .ok merged
        ↔ (second.merge third >>= fun joined => first.merge joined) = .ok merged)
      ∧ first.merge first
        = .ok { first with
            links := first.links ++ first.links
            templates := first.templates ++ first.templates } := by
  constructor
  · intro merged
    rw [merge_then_merge_eq_ok_iff, merge_of_merged_eq_ok_iff, extend_assoc]
  · exact merge_eq_ok_iff.mpr ⟨Labels.agree_self first.labels, extend_self first⟩

-----------------------------------------------------------------------------------------
-- Labels that are kept
-----------------------------------------------------------------------------------------

/-- Where a node has labels from. -/
inductive LabelSource where
  | purchases
  | links
  | hosting
deriving DecidableEq, Repr

/-- The labels that a node has from a source. -/
def labelsFrom (node : Node) : LabelSource → Labels
  | .purchases => node.providerLabels
  | .links => node.linkLabels
  | .hosting => node.hosting

/-- The node has two labels for the provider. -/
def Contradicts (node : Node) (provider : EntityType) : Prop :=
  ∃ first second,
    node.HasLabel provider first ∧ node.HasLabel provider second ∧ first ≠ second

/-- A node has every label that one of its maps gives. -/
theorem hasLabel_of_labelsFrom {node : Node} {source : LabelSource} {provider : EntityType}
    {label : Relationship} (h : (node.labelsFrom source).find? provider = some label)
    : node.HasLabel provider label := by
  cases source with
  | purchases => exact Or.inl h
  | links => exact Or.inr (Or.inl h)
  | hosting => exact Or.inr (Or.inr h)

/-- A map of an extended node has the labels of both, those of the first one before the others. -/
theorem labelsFrom_extend (node other : Node) (source : LabelSource)
    : (node.extend other).labelsFrom source
      = SortedMap.union (node.labelsFrom source) (other.labelsFrom source) := by
  cases source <;> rfl

/-- The label that counts for a provider is one of its labels, and there is one if it has any. -/
theorem exists_find?_labels {node : Node} {provider : EntityType} {label : Relationship}
    (h : node.HasLabel provider label)
    : ∃ counting,
        node.labels.find? provider = some counting ∧ node.HasLabel provider counting := by
  simp only [labels, SortedMap.find?_union, HasLabel] at h ⊢
  cases hp : node.providerLabels.find? provider with
  | some label => exact ⟨label, by simp⟩
  | none =>
      cases hl : node.linkLabels.find? provider with
      | some label => exact ⟨label, by simp⟩
      | none => exact ⟨label, by simpa [hp, hl] using h⟩

/-- Labels of two nodes that agree differ only at a provider at which one of the nodes contradicts
itself. -/
theorem contradicts_of_agree {node other : Node} (h : Labels.Agree node.labels other.labels)
    {provider : EntityType} {first second : Relationship} (hf : node.HasLabel provider first)
    (hs : other.HasLabel provider second) (hne : first ≠ second)
    : node.Contradicts provider ∨ other.Contradicts provider := by
  obtain ⟨counting, hcounting, hhas⟩ := exists_find?_labels hf
  obtain ⟨deciding, hdeciding, hother⟩ := exists_find?_labels hs
  obtain rfl := h provider counting deciding hcounting hdeciding
  by_cases heq : first = counting
  · subst heq
    exact Or.inr ⟨first, second, hother, hs, hne⟩
  · exact Or.inl ⟨first, counting, hf, hhas, heq⟩

/-- Two nodes that differ in a label are not merged unless one of them contradicts itself. -/
theorem merge_fails_of_labels_differ {node other : Node} {provider : EntityType}
    {first second : Relationship} (hf : node.HasLabel provider first)
    (hs : other.HasLabel provider second) (hne : first ≠ second)
    : (∃ cause, node.merge other = .error cause ∧ node.absorb other = (node, some cause))
      ∨ node.Contradicts provider
      ∨ other.Contradicts provider := by
  cases hmerge : node.merge other with
  | error cause => exact Or.inl ⟨cause, rfl, absorb_of_merge_eq_error hmerge⟩
  | ok merged => exact Or.inr (contradicts_of_agree (merge_eq_ok_iff.mp hmerge).1 hf hs hne)

/-- A merge drops no label of the node, and none of the other node unless one of the two contradicts
itself about the provider. Where neither does, two different labels for a provider are a
conflict, which leaves the node as it was. -/
theorem merge_keeps_uncontradicted_labels (node other : Node)
    : (∀ merged,
        node.merge other = .ok merged
        → ∀ source provider label,
            ((node.labelsFrom source).find? provider = some label
              → (merged.labelsFrom source).find? provider = some label)
            ∧ ((other.labelsFrom source).find? provider = some label
              → (merged.labelsFrom source).find? provider = some label
                ∨ node.Contradicts provider
                ∨ other.Contradicts provider))
      ∧ ∀ source provider first second,
          (node.labelsFrom source).find? provider = some first
          → (other.labelsFrom source).find? provider = some second
          → first ≠ second
          → (∃ cause, node.merge other = .error cause ∧ node.absorb other = (node, some cause))
            ∨ node.Contradicts provider
            ∨ other.Contradicts provider := by
  constructor
  · intro merged hmerge source provider label
    obtain ⟨hagree, rfl⟩ := merge_eq_ok_iff.mp hmerge
    rw [labelsFrom_extend, SortedMap.find?_union]
    refine ⟨fun h => by rw [h, Option.some_or], fun h => ?_⟩
    cases hnode : (node.labelsFrom source).find? provider with
    | none => exact Or.inl (by rw [h, Option.none_or])
    | some present =>
        by_cases heq : present = label
        · exact Or.inl (by rw [heq, Option.some_or])
        · exact Or.inr (contradicts_of_agree hagree (hasLabel_of_labelsFrom hnode)
            (hasLabel_of_labelsFrom h) heq)
  · intro source provider first second hf hs hne
    exact merge_fails_of_labels_differ (hasLabel_of_labelsFrom hf) (hasLabel_of_labelsFrom hs) hne

/-- A virtual machine that buys from the physical machine which hosts it, and that has a link to it
with a label of its own. -/
def linkedMachine (label : Relationship) : Node :=
  Node.ofParts .virtualMachine (SortedSet.ofList [.vcpu]) ∅
    { bought := SortedMap.ofList [(.physicalMachine, ∅)]
      labels := SortedMap.ofList [(.physicalMachine, .hosting)]
      hosting := SortedMap.ofList [(.physicalMachine, .hosting)]
      hosted := SortedMap.ofList [(.physicalMachine, ∅)] }
    [{ key := none
       buyer := .virtualMachine
       seller := .physicalMachine
       relationship := some label
       linkKey := none
       hasExternalEntity := false
       commodities := ∅
       probeProperties := ∅
       propagations := [] }]
    ⟨none, none⟩

/-- The label of a link is hidden by the one of a bought group. Two nodes that agree on the latter
are merged, though they differ on the former, and the label that comes later is gone. -/
theorem merge_drops_hidden_label
    : ∃ merged,
        (linkedMachine .hosting).merge (linkedMachine .layeredOver) = .ok merged
        ∧ ((linkedMachine .hosting).labelsFrom .links).find? .physicalMachine = some .hosting
        ∧ ((linkedMachine .layeredOver).labelsFrom .links).find? .physicalMachine
          = some .layeredOver
        ∧ (merged.labelsFrom .links).find? .physicalMachine = some .hosting := by
  have hagree
      : Labels.Agree (linkedMachine .hosting).labels (linkedMachine .layeredOver).labels :=
    Labels.firstDifference?_eq_none_iff.mp (by decide)
  exact ⟨_, merge_eq_ok_iff.mpr ⟨hagree, rfl⟩, by decide, by decide, by decide⟩

end Node

end SupplyGraph
