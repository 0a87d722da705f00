import SupplyGraph.Proofs.Node.Joining

/-!
Unions of nodes, said field by field. Joining nodes that agree on all labels gives their union, and
no other node is the union of the same parts.
-/

namespace SupplyGraph

namespace SortedMap

variable {κ α : Type} [Key κ]

/-- The map holds exactly the entries that some of the maps holds. -/
def IsUnion (parts : List (SortedMap κ α)) (map : SortedMap κ α) : Prop :=
  ∀ key value, map.find? key = some value ↔ ∃ part ∈ parts, part.find? key = some value

/-- The map has the keys of all the maps, and under each the members that some of them has. -/
structure IsSetUnion [Key α] (parts : List (SortedMap κ (SortedSet α)))
    (map : SortedMap κ (SortedSet α))
    : Prop where
  keys : ∀ key, key ∈ map.keys ↔ ∃ part ∈ parts, key ∈ part.keys
  members : ∀ key value, value ∈ map.setAt key ↔ ∃ part ∈ parts, value ∈ part.setAt key

/-- Parts have one union: a key has a value in it exactly if one of them gives it. -/
theorem IsUnion.unique {parts : List (SortedMap κ α)} {first second : SortedMap κ α}
    (hf : IsUnion parts first) (hs : IsUnion parts second)
    : first = second := by
  ext key : 1
  apply Option.ext
  intro value
  rw [hf, hs]

/-- Parts have one union of sets: a key has the values of all parts. -/
theorem IsSetUnion.unique [Key α] {parts : List (SortedMap κ (SortedSet α))}
    {first second : SortedMap κ (SortedSet α)} (hf : IsSetUnion parts first)
    (hs : IsSetUnion parts second)
    : first = second :=
  ext_sets (fun key => (hf.keys key).trans (hs.keys key).symm)
    (fun key value => (hf.members key value).trans (hs.members key value).symm)

theorem isUnion_singleton (map : SortedMap κ α)
    : IsUnion [map] map := by
  intro key value
  simp

theorem isSetUnion_singleton [Key α] (map : SortedMap κ (SortedSet α))
    : IsSetUnion [map] map :=
  ⟨fun key => by simp, fun key value => by simp⟩

/-- One map more belongs to the union when it contradicts none of the others. -/
theorem IsUnion.concat {parts : List (SortedMap κ α)} {map extra : SortedMap κ α}
    (h : IsUnion parts map)
    (ha
      : ∀ part ∈ parts,
          ∀ key first second,
            part.find? key = some first → extra.find? key = some second → first = second)
    : IsUnion (parts ++ [extra]) (union map extra) := by
  intro key value
  simp only [find?_union, List.mem_append, List.mem_singleton, or_and_right, exists_or,
    exists_eq_left, ← h key value]
  cases hm : map.find? key with
  | none => simp
  | some present =>
      -- The first map wins, but where both have a value the two are the same.
      simp only [Option.some_or]
      refine ⟨Or.inl, ?_⟩
      intro hi
      rcases hi with he | he
      · exact he
      · obtain ⟨part, hp, hf⟩ := (h key present).mp hm
        rw [ha part hp key present value hf he]

/-- One part more adds its values, key by key. -/
theorem IsSetUnion.concat [Key α] {parts : List (SortedMap κ (SortedSet α))}
    {map extra : SortedMap κ (SortedSet α)} (h : IsSetUnion parts map)
    : IsSetUnion (parts ++ [extra]) (unionWith (· ∪ ·) map extra) := by
  constructor
  · intro key
    simp [h.keys, or_and_right, exists_or]
  · intro key value
    simp [h.members, or_and_right, exists_or]

end SortedMap

namespace Node

/-- The node is for the entity type and holds exactly what the parts hold: the lists one after the
other, the sets and maps united, and of the cardinalities of a provider the first one. -/
structure IsUnion (entityType : EntityType) (parts : List Node) (node : Node) : Prop where
  entityType : node.entityType = entityType
  sold : ∀ commodity, commodity ∈ node.sold ↔ ∃ part ∈ parts, commodity ∈ part.sold
  keyedSold : ∀ commodity, commodity ∈ node.keyedSold ↔ ∃ part ∈ parts, commodity ∈ part.keyedSold
  bought : SortedMap.IsSetUnion (parts.map Node.bought) node.bought
  providerLabels : SortedMap.IsUnion (parts.map Node.providerLabels) node.providerLabels
  cardinalities
    : ∀ provider,
        node.cardinalities.find? provider
        = parts.findSome? (fun part => part.cardinalities.find? provider)
  linkLabels : SortedMap.IsUnion (parts.map Node.linkLabels) node.linkLabels
  hosting : SortedMap.IsUnion (parts.map Node.hosting) node.hosting
  hostedCommodities : SortedMap.IsSetUnion (parts.map Node.hostedCommodities) node.hostedCommodities
  hostedProperties : SortedMap.IsSetUnion (parts.map Node.hostedProperties) node.hostedProperties
  links : node.links = parts.flatMap Node.links
  templates : node.templates = parts.flatMap Node.templates

/-- Parts have one union at most, since every field is determined. -/
theorem IsUnion.unique {entityType : EntityType} {parts : List Node} {first second : Node}
    (hf : IsUnion entityType parts first) (hs : IsUnion entityType parts second)
    : first = second := by
  have hsold : first.sold = second.sold :=
    SortedSet.ext (fun commodity => (hf.sold commodity).trans (hs.sold commodity).symm)
  have hkeyed : first.keyedSold = second.keyedSold :=
    SortedSet.ext (fun commodity => (hf.keyedSold commodity).trans (hs.keyedSold commodity).symm)
  have hcardinalities : first.cardinalities = second.cardinalities :=
    SortedMap.ext
      (fun provider => (hf.cardinalities provider).trans (hs.cardinalities provider).symm)
  cases first
  cases second
  simp only [mk.injEq]
  exact ⟨hf.entityType.trans hs.entityType.symm, hsold, hkeyed, hf.bought.unique hs.bought,
    hf.providerLabels.unique hs.providerLabels, hcardinalities,
    hf.linkLabels.unique hs.linkLabels, hf.hosting.unique hs.hosting,
    hf.hostedCommodities.unique hs.hostedCommodities,
    hf.hostedProperties.unique hs.hostedProperties, hf.links.trans hs.links.symm,
    hf.templates.trans hs.templates.symm⟩

theorem isUnion_singleton (node : Node)
    : IsUnion node.entityType [node] node where
  entityType := rfl
  sold := by simp
  keyedSold := by simp
  bought := SortedMap.isSetUnion_singleton _
  providerLabels := SortedMap.isUnion_singleton _
  cardinalities := by simp
  linkLabels := SortedMap.isUnion_singleton _
  hosting := SortedMap.isUnion_singleton _
  hostedCommodities := SortedMap.isSetUnion_singleton _
  hostedProperties := SortedMap.isSetUnion_singleton _
  links := by simp
  templates := by simp

/-- A label map stays the union of those of the parts when one more part contradicts no other. -/
theorem isUnion_field {field : Node → Labels} {parts : List Node} {node extra : Node}
    (hl
      : ∀ (node : Node) provider label,
          (field node).find? provider = some label → node.HasLabel provider label)
    (h : SortedMap.IsUnion (parts.map field) (field node))
    (ha
      : ∀ part ∈ parts,
          ∀ provider first second,
            part.HasLabel provider first → extra.HasLabel provider second → first = second)
    : SortedMap.IsUnion ((parts ++ [extra]).map field)
        (SortedMap.union (field node) (field extra)) := by
  rw [List.map_append]
  refine h.concat ?_
  intro _ hm provider first second hf hs
  obtain ⟨part, hp, rfl⟩ := List.mem_map.mp hm
  exact ha part hp provider first second (hl part provider first hf) (hl extra provider second hs)

/-- A node extended by one that contradicts none of its parts is the union of all parts. -/
theorem IsUnion.extend {entityType : EntityType} {parts : List Node} {node extra : Node}
    (h : IsUnion entityType parts node)
    (ha
      : ∀ part ∈ parts,
          ∀ provider first second,
            part.HasLabel provider first → extra.HasLabel provider second → first = second)
    : IsUnion entityType (parts ++ [extra]) (node.extend extra) where
  entityType := h.entityType
  sold commodity := by simp [Node.extend, h.sold, or_and_right, exists_or]
  keyedSold commodity := by simp [Node.extend, h.keyedSold, or_and_right, exists_or]
  bought := by
    rw [List.map_append]
    exact h.bought.concat
  providerLabels := isUnion_field (fun _ _ _ => Or.inl) h.providerLabels ha
  cardinalities provider := by
    simp [Node.extend, SortedMap.find?_union, h.cardinalities, List.findSome?_append]
  linkLabels := isUnion_field (fun _ _ _ hl => Or.inr (Or.inl hl)) h.linkLabels ha
  hosting := isUnion_field (fun _ _ _ hl => Or.inr (Or.inr hl)) h.hosting ha
  hostedCommodities := by
    rw [List.map_append]
    exact h.hostedCommodities.concat
  hostedProperties := by
    rw [List.map_append]
    exact h.hostedProperties.concat
  links := by simp [Node.extend, h.links]
  templates := by simp [Node.extend, h.templates]

/-- Joined nodes are the union of the nodes, where these are coherent and agree. -/
theorem isUnion_join? {entityType : EntityType} {nodes : List Node} {joined : Node}
    (h : join? nodes = some joined) (ht : ∀ node ∈ nodes, node.entityType = entityType)
    (hc : ∀ node ∈ nodes, node.Coherent)
    (ha : nodes.Pairwise (fun first second => Labels.Agree first.labels second.labels))
    : IsUnion entityType nodes joined := by
  refine join?_induction (motive := fun nodes joined =>
    (∀ node ∈ nodes, node.entityType = entityType)
    → (∀ node ∈ nodes, node.Coherent)
    → nodes.Pairwise (fun first second => Labels.Agree first.labels second.labels)
    → IsUnion entityType nodes joined) ?_ ?_ h ht hc ha
  · intro node ht _ _
    rw [← ht node (by simp)]
    exact isUnion_singleton node
  · intro nodes joined node _ ih ht hc ha
    obtain ⟨hnodes, _, hlast⟩ := List.pairwise_append.mp ha
    have hparts := ih (fun other ho => ht other (List.mem_append_left _ ho))
      (fun other ho => hc other (List.mem_append_left _ ho)) hnodes
    refine hparts.extend (fun part hp => ?_)
    exact (agree_labels_iff (hc part (List.mem_append_left _ hp)) (hc node (by simp))).mp
      (hlast part hp node (by simp))

end Node

end SupplyGraph
