import SupplyGraph.Proofs.Chain.Fingerprint
import SupplyGraph.Proofs.Json.Indentation

/-!
Printed chains. The indented text of a chain reads back as an object with a member for every node,
in the order of the entity types; what is read back has the fingerprint of the chain.
-/

namespace SupplyGraph

namespace Json

-----------------------------------------------------------------------------------------
-- The depth of encodings
-----------------------------------------------------------------------------------------

section Depth

variable {α : Type} {limit : Nat}

@[simp]
theorem depth_ofLabelled [Labelled α] (value : α)
    : (ofLabelled value).depth = 0 :=
  rfl

/-- A set takes one level more than the deepest of its values. -/
theorem depth_ofSet_le_succ_iff [Key α] {encode : α → Json} {set : SortedSet α}
    : (ofSet encode set).depth ≤ limit + 1
      ↔ ∀ value ∈ set.toList, (encode value).depth ≤ limit :=
  depth_list_le_succ_iff

/-- A map takes one level more than the deepest of its values, as its keys are mere names. -/
theorem depth_ofMap_le_succ_iff {κ : Type} [Key κ] [Labelled κ] {encode : α → Json}
    {map : SortedMap κ α}
    : (ofMap encode map).depth ≤ limit + 1
      ↔ ∀ entry ∈ map.entries, (encode entry.2).depth ≤ limit := by
  rw [ofMap, depth_object_le_succ_iff, List.forall_mem_map]

end Depth

end Json

section Depth

variable (limit : Nat)

/-- A step has only values without parts in it. -/
theorem HandlerStep.depth_toJson_le (step : HandlerStep)
    : step.toJson.depth ≤ limit + 1 := by
  simp [toJson, Json.depth_object_le_succ_iff]

/-- A propagation takes three levels: its own, that of the list of steps, and theirs. -/
theorem Propagation.depth_toJson_le (propagation : Propagation)
    : propagation.toJson.depth ≤ limit + 3 := by
  simp [toJson, Json.depth_object_le_succ_iff, Json.depth_optional_le_iff,
    Json.depth_list_le_succ_iff, HandlerStep.depth_toJson_le]

/-- A link takes two levels more than its propagations. -/
theorem Link.depth_toJson_le (link : Link)
    : link.toJson.depth ≤ limit + 5 := by
  simp [toJson, Json.depth_object_le_succ_iff, Json.depth_optional_le_iff,
    Json.depth_list_le_succ_iff, Json.depth_ofSet_le_succ_iff, Propagation.depth_toJson_le]

theorem Cardinality.depth_toJson_le (cardinality : Cardinality)
    : cardinality.toJson.depth ≤ limit + 1 := by
  simp [toJson, Json.depth_object_le_succ_iff, Json.depth_optional_le_iff]

theorem TemplateMeta.depth_toJson_le (template : TemplateMeta)
    : template.toJson.depth ≤ limit + 1 := by
  simp [toJson, Json.depth_object_le_succ_iff, Json.depth_optional_le_iff]

theorem Labels.depth_toJson_le (labels : Labels)
    : (Labels.toJson labels).depth ≤ limit + 1 := by
  simp [toJson, Json.depth_ofMap_le_succ_iff]

/-- A map of sets takes two levels. -/
theorem CommodityMap.depth_toJson_le (map : CommodityMap)
    : (CommodityMap.toJson map).depth ≤ limit + 2 := by
  simp [toJson, Json.depth_ofMap_le_succ_iff, Json.depth_ofSet_le_succ_iff]

/-- A node takes two levels more than its links, which are the deepest part of it. -/
theorem Node.depth_toJson_le (node : Node)
    : node.toJson.depth ≤ limit + 7 := by
  simp [toJson, Json.depth_object_le_succ_iff, Json.depth_list_le_succ_iff,
    Json.depth_ofSet_le_succ_iff, Json.depth_ofMap_le_succ_iff, Labels.depth_toJson_le,
    CommodityMap.depth_toJson_le, Cardinality.depth_toJson_le, Link.depth_toJson_le,
    TemplateMeta.depth_toJson_le]

/-- A chain takes eight levels at most, far fewer than the reader allows. -/
theorem Chain.depth_toJson_le (chain : Chain)
    : chain.toJson.depth ≤ limit + 8 := by
  rw [toJson, Json.depth_ofMap_le_succ_iff]
  exact fun entry _ => entry.2.depth_toJson_le limit

end Depth

-----------------------------------------------------------------------------------------
-- Members for nodes
-----------------------------------------------------------------------------------------

/-- The labels of entity types are in the order of the entity types. -/
theorem EntityType.label_lt {left right : EntityType} (h : left < right)
    : Labelled.label left < Labelled.label right := by
  have hall
      : ∀ left ∈ (Labelled.all : List EntityType),
          ∀ right ∈ (Labelled.all : List EntityType),
            left < right → Labelled.label left < Labelled.label right := by
    decide +kernel
  exact hall left (LawfulLabelled.mem_all left) right (LawfulLabelled.mem_all right) h

namespace Chain

/-- The member for a node as it is printed. -/
def printedMember (entry : EntityType × Node) : String × Json :=
  (Labelled.label entry.1, entry.2.toJson.canonical)

/-- The keys are in the order of the entity types. -/
theorem ascending_printed (chain : Chain)
    : ((chain.nodes.entries.map printedMember).map Prod.fst).Pairwise (· < ·) := by
  have hkeys := chain.nodes.ascending
  rw [Ascending, List.pairwise_map] at hkeys
  rw [List.pairwise_map, List.pairwise_map]
  exact hkeys.imp EntityType.label_lt

/-- The members stay in this order. -/
theorem canonical_toJson (chain : Chain)
    : chain.toJson.canonical = .object (chain.nodes.entries.map printedMember) := by
  have hmembers
      : (chain.nodes.entries.map (fun entry => (Labelled.label entry.1, entry.2.toJson))).map
          Json.canonicalMember
        = chain.nodes.entries.map printedMember := by
    rw [List.map_map]
    rfl
  rw [toJson, Json.ofMap, Json.canonical_object, hmembers,
    SortedMap.ofList_entries ⟨_, chain.ascending_printed⟩]

/-- A printed node lists what its entries left in its templates. -/
theorem templates_printedMember (entry : EntityType × Node)
    : (printedMember entry).2.follow? (.field "templates")
      = some (.array (entry.2.templates.map (fun record => record.toJson.canonical))) := by
  have hmember
      : entry.2.toJson.follow? (.field "templates")
        = some (.array (entry.2.templates.map TemplateMeta.toJson)) :=
    rfl
  rw [Node.toJson] at hmember
  rw [printedMember, Node.toJson, Json.follow?_canonical (by simp), hmember, Option.map_some,
    Json.canonical_array, List.map_map]
  rfl

/-- The printed chain reads back as one member for each node. -/
theorem read?_printed (chain : Chain)
    : Json.read? chain.toJson.canonical.renderIndented
      = some (.object (chain.nodes.entries.map printedMember)) := by
  rw [(faithful_toJson.exact chain).read?_printed (chain.depth_toJson_le 119), canonical_toJson]

/-- What is read back has the fingerprint of the chain. -/
theorem fingerprint_printed (chain : Chain)
    : SupplyGraph.fingerprint (.object (chain.nodes.entries.map printedMember))
      = chain.fingerprint := by
  rw [← canonical_toJson, SupplyGraph.fingerprint, Json.renderCanonical, Json.canonical_canonical]
  rfl

end Chain

end SupplyGraph
