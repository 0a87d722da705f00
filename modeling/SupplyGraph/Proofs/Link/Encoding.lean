import SupplyGraph.Proofs.Json.Faithful

/-!
Encodings of links. The value that a link is written as is exact and tells the link apart from all
others.
-/

namespace SupplyGraph

open Json (Faithful faithful_record faithful_string faithful_bool faithful_ofLabelled
  faithful_optionalString)

/-- A step is told apart by its method, its entity type and its flag. -/
theorem HandlerStep.faithful_toJson
    : Faithful HandlerStep.toJson := by
  refine faithful_record
    [⟨"methodName", _, methodName, .string, faithful_string⟩,
      ⟨"entityType", _, entityType, Json.ofLabelled, faithful_ofLabelled⟩,
      ⟨"directlyApply", _, directlyApply, .bool, faithful_bool⟩]
    (by decide) ?_
  rintro ⟨⟩ ⟨⟩ h
  simp only [List.forall_mem_cons] at h
  obtain ⟨rfl, rfl, rfl, _⟩ := h
  rfl

/-- A missing label is written as null, which is no label. -/
theorem faithful_optionalLabelled {α : Type} [Labelled α] [LawfulLabelled α]
    : Faithful (Json.optional (Json.ofLabelled : α → Json)) :=
  faithful_ofLabelled.optional (fun _ => Json.noConfusion)

/-- A propagation is told apart by its steps as well, in their order. -/
theorem Propagation.faithful_toJson
    : Faithful Propagation.toJson := by
  refine faithful_record
    [⟨"entity", _, entity, Json.ofLabelled, faithful_ofLabelled⟩,
      ⟨"attribute", _, attributeName, Json.optional .string, faithful_optionalString⟩,
      ⟨"useTopoExt", _, useTopoExt, .bool, faithful_bool⟩,
      ⟨"handlers", _, handlers, _, HandlerStep.faithful_toJson.list⟩]
    (by decide) ?_
  rintro ⟨⟩ ⟨⟩ h
  simp only [List.forall_mem_cons] at h
  obtain ⟨rfl, rfl, rfl, rfl, _⟩ := h
  rfl

/-- No two links are written alike: each of the nine fields is a member of its own, and the key and
the relationship may be missing. -/
theorem Link.faithful_toJson
    : Faithful Link.toJson := by
  refine faithful_record
    [⟨"key", _, key, _, faithful_optionalLabelled⟩,
      ⟨"buyer", _, buyer, _, faithful_ofLabelled⟩,
      ⟨"seller", _, seller, _, faithful_ofLabelled⟩,
      ⟨"relationship", _, relationship, _, faithful_optionalLabelled⟩,
      ⟨"linkKey", _, linkKey, _, faithful_optionalString⟩,
      ⟨"hasExternalEntity", _, hasExternalEntity, _, faithful_bool⟩,
      ⟨"commodities", _, commodities, _, faithful_ofLabelled.ofSet⟩,
      ⟨"probeProperties", _, probeProperties, _, faithful_string.ofSet⟩,
      ⟨"propagations", _, propagations, _, Propagation.faithful_toJson.list⟩]
    (by decide) ?_
  rintro ⟨⟩ ⟨⟩ h
  simp only [List.forall_mem_cons] at h
  obtain ⟨rfl, rfl, rfl, rfl, rfl, rfl, rfl, rfl, rfl, _⟩ := h
  rfl

end SupplyGraph
