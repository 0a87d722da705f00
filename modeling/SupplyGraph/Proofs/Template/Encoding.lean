import SupplyGraph.Proofs.Json.Faithful
import SupplyGraph.Template.Json

/-!
Encodings of template documents. The value that a document is written as is exact and tells the
document apart from all others.
-/

namespace SupplyGraph.Template

open Json (Faithful faithful_record faithful_string faithful_bool faithful_optionalString
  faithful_optionalInt32)

/-- Every field of a commodity is a member of its own, so no two commodities are written alike. The
other records are told apart in the same way. -/
theorem Commodity.faithful_toJson
    : Faithful Commodity.toJson := by
  refine faithful_record
    [⟨"commodityType", _, commodityType, _, faithful_optionalString⟩,
      ⟨"key", _, key, _, faithful_optionalString⟩,
      ⟨"optional", _, optional, _, faithful_bool⟩]
    (by decide) ?_
  rintro ⟨⟩ ⟨⟩ h
  simp only [List.forall_mem_cons] at h
  obtain ⟨rfl, rfl, rfl, _⟩ := h
  rfl

/-- A bound that is missing is written as null, unlike any number. -/
theorem ProviderRef.faithful_toJson
    : Faithful ProviderRef.toJson := by
  refine faithful_record
    [⟨"templateClass", _, templateClass, _, faithful_optionalString⟩,
      ⟨"providerType", _, providerType, _, faithful_optionalString⟩,
      ⟨"cardinalityMin", _, cardinalityMin, _, faithful_optionalInt32⟩,
      ⟨"cardinalityMax", _, cardinalityMax, _, faithful_optionalInt32⟩]
    (by decide) ?_
  rintro ⟨⟩ ⟨⟩ h
  simp only [List.forall_mem_cons] at h
  obtain ⟨rfl, rfl, rfl, rfl, _⟩ := h
  rfl

/-- A missing provider is written as null, unlike a provider of which nothing is said. -/
theorem BoughtGroup.faithful_toJson
    : Faithful BoughtGroup.toJson := by
  refine faithful_record
    [⟨"key", _, key, _, ProviderRef.faithful_toJson.optional (fun _ => nofun)⟩,
      ⟨"value", _, value, _, Commodity.faithful_toJson.list⟩]
    (by decide) ?_
  rintro ⟨⟩ ⟨⟩ h
  simp only [List.forall_mem_cons] at h
  obtain ⟨rfl, rfl, _⟩ := h
  rfl

theorem CommodityDef.faithful_toJson
    : Faithful CommodityDef.toJson := by
  refine faithful_record
    [⟨"type", _, commodityType, _, faithful_optionalString⟩,
      ⟨"hasKey", _, hasKey, _, faithful_bool⟩]
    (by decide) ?_
  rintro ⟨⟩ ⟨⟩ h
  simp only [List.forall_mem_cons] at h
  obtain ⟨rfl, rfl, _⟩ := h
  rfl

theorem ProbeProperty.faithful_toJson
    : Faithful ProbeProperty.toJson := by
  refine faithful_record
    [⟨"name", _, name, _, faithful_optionalString⟩,
      ⟨"description", _, description, _, faithful_optionalString⟩]
    (by decide) ?_
  rintro ⟨⟩ ⟨⟩ h
  simp only [List.forall_mem_cons] at h
  obtain ⟨rfl, rfl, _⟩ := h
  rfl

-----------------------------------------------------------------------------------------
-- Chains of handlers
-----------------------------------------------------------------------------------------

namespace Handler

/-- A chain holds no number that could be rounded, by induction on the chain. -/
theorem isExact_chainToJson (handlers : List Handler)
    : (chainToJson handlers).IsExact := by
  induction handlers with
  | nil => exact .null
  | cons handler rest ih =>
      refine .object ?_
      simp only [List.forall_mem_cons]
      exact ⟨faithful_optionalString.exact _, faithful_optionalString.exact _, .bool _, ih,
        by simp⟩

/-- The handlers of two chains are the same one by one, by induction on the first chain. -/
theorem chainToJson_injective {left right : List Handler}
    (h : (chainToJson left).canonical = (chainToJson right).canonical)
    : left = right := by
  induction left generalizing right with
  | nil =>
      cases right with
      | nil => rfl
      | cons handler rest => cases h
  | cons handler rest ih =>
      cases right with
      | nil => cases h
      | cons other tail =>
          have hmembers := Json.canonical_members_eq h rfl (by simp)
          simp only [List.map_cons, List.cons.injEq, Json.canonicalMember, Prod.mk.injEq]
            at hmembers
          obtain ⟨⟨_, hmethod⟩, ⟨_, htype⟩, ⟨_, happly⟩, ⟨_, hrest⟩, _⟩ := hmembers
          obtain ⟨⟩ := handler
          obtain ⟨⟩ := other
          obtain rfl := faithful_optionalString.injective hmethod
          obtain rfl := faithful_optionalString.injective htype
          obtain rfl := faithful_bool.injective happly
          rw [ih hrest]

theorem faithful_chainToJson
    : Faithful chainToJson := ⟨isExact_chainToJson, chainToJson_injective⟩

end Handler

-----------------------------------------------------------------------------------------
-- Links, entries and documents
-----------------------------------------------------------------------------------------

/-- A property is told apart by its chain of handlers as well, however deep it is. -/
theorem EntityProperty.faithful_toJson
    : Faithful EntityProperty.toJson := by
  refine faithful_record
    [⟨"entity", _, entity, _, faithful_optionalString⟩,
      ⟨"attribute", _, attributeName, _, faithful_optionalString⟩,
      ⟨"useTopoExt", _, useTopoExt, _, faithful_bool⟩,
      ⟨"propertyHandler", _, handlers, _, Handler.faithful_chainToJson⟩]
    (by decide) ?_
  rintro ⟨⟩ ⟨⟩ h
  simp only [List.forall_mem_cons] at h
  obtain ⟨rfl, rfl, rfl, rfl, _⟩ := h
  rfl

/-- A link that says nothing of an external entity is told apart from one that denies it. -/
theorem LinkDeclaration.faithful_toJson
    : Faithful LinkDeclaration.toJson := by
  refine faithful_record
    [⟨"buyerRef", _, buyerRef, _, faithful_optionalString⟩,
      ⟨"sellerRef", _, sellerRef, _, faithful_optionalString⟩,
      ⟨"relationship", _, relationship, _, faithful_optionalString⟩,
      ⟨"commodityDefs", _, commodityDefs, _, CommodityDef.faithful_toJson.list⟩,
      ⟨"key", _, key, _, faithful_optionalString⟩,
      ⟨"hasExternalEntity", _, hasExternalEntity, _, faithful_bool.optional (fun _ => nofun)⟩,
      ⟨"probeEntityPropertyDef", _, probeProperties, _, ProbeProperty.faithful_toJson.list⟩,
      ⟨"externalEntityPropertyDefs", _, entityProperties, _, EntityProperty.faithful_toJson.list⟩]
    (by decide) ?_
  rintro ⟨⟩ ⟨⟩ h
  simp only [List.forall_mem_cons] at h
  obtain ⟨rfl, rfl, rfl, rfl, rfl, rfl, rfl, rfl, _⟩ := h
  rfl

theorem LinkEntry.faithful_toJson
    : Faithful LinkEntry.toJson := by
  refine faithful_record
    [⟨"key", _, key, _, faithful_optionalString⟩,
      ⟨"value", _, value, _, LinkDeclaration.faithful_toJson⟩]
    (by decide) ?_
  rintro ⟨⟩ ⟨⟩ h
  simp only [List.forall_mem_cons] at h
  obtain ⟨rfl, rfl, _⟩ := h
  rfl

/-- No two entries are written alike, since the lists of an entry keep their order. -/
theorem Entry.faithful_toJson
    : Faithful Entry.toJson := by
  refine faithful_record
    [⟨"templateClass", _, templateClass, _, Json.faithful_string⟩,
      ⟨"templateType", _, templateType, _, faithful_optionalString⟩,
      ⟨"templatePriority", _, templatePriority, _, faithful_optionalInt32⟩,
      ⟨"commoditySold", _, commoditySold, _, Commodity.faithful_toJson.list⟩,
      ⟨"commodityBought", _, commodityBought, _, BoughtGroup.faithful_toJson.list⟩,
      ⟨"externalLink", _, externalLink, _, LinkEntry.faithful_toJson.list⟩]
    (by decide) ?_
  rintro ⟨⟩ ⟨⟩ h
  simp only [List.forall_mem_cons] at h
  obtain ⟨rfl, rfl, rfl, rfl, rfl, rfl, _⟩ := h
  rfl

/-- A document is its list of entries, so no two documents are written alike. -/
theorem Document.faithful_toJson
    : Faithful Document.toJson := by
  refine faithful_record [⟨"supplyChainNode", _, entries, _, Entry.faithful_toJson.list⟩]
    (by decide) ?_
  rintro ⟨⟩ ⟨⟩ h
  simp only [List.forall_mem_cons] at h
  obtain ⟨rfl, _⟩ := h
  rfl

end SupplyGraph.Template
