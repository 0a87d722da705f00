import SupplyGraph.Chain
import SupplyGraph.Proofs.Digest.Collision
import SupplyGraph.Proofs.Link.Encoding
import SupplyGraph.Proofs.Text.Octets

/-!
Fingerprints. The canonical text of a chain tells it apart from all other chains, so different
chains have the same fingerprint only if their texts collide.
-/

namespace SupplyGraph

open Json (Faithful faithful_record faithful_string faithful_ofLabelled faithful_optionalInt32)

-----------------------------------------------------------------------------------------
-- Encodings of nodes and chains
-----------------------------------------------------------------------------------------

/-- A missing bound is written as null, so it is told apart from every number. -/
theorem Cardinality.faithful_toJson
    : Faithful Cardinality.toJson := by
  refine faithful_record
    [⟨"min", _, least, _, faithful_optionalInt32⟩,
      ⟨"max", _, most, _, faithful_optionalInt32⟩]
    (by decide) ?_
  rintro ⟨⟩ ⟨⟩ h
  simp only [List.forall_mem_cons] at h
  obtain ⟨rfl, rfl, _⟩ := h
  rfl

/-- A template is told apart by its kind and its priority, of which either may be missing. -/
theorem TemplateMeta.faithful_toJson
    : Faithful TemplateMeta.toJson := by
  refine faithful_record
    [⟨"kind", _, kind, _, faithful_optionalLabelled⟩,
      ⟨"priority", _, priority, _, faithful_optionalInt32⟩]
    (by decide) ?_
  rintro ⟨⟩ ⟨⟩ h
  simp only [List.forall_mem_cons] at h
  obtain ⟨rfl, rfl, _⟩ := h
  rfl

/-- A map of labels is told apart by its labels, as no two relationships share one. -/
theorem Labels.faithful_toJson
    : Faithful Labels.toJson :=
  faithful_ofLabelled.ofMap

/-- A map of commodities is told apart by its providers and by the set that stands for each of them.
-/
theorem CommodityMap.faithful_toJson
    : Faithful CommodityMap.toJson :=
  faithful_ofLabelled.ofSet.ofMap

/-- No two nodes are written alike: each of the twelve fields is a member of its own, and each is
written in a way that tells its values apart. -/
theorem Node.faithful_toJson
    : Faithful Node.toJson := by
  refine faithful_record
    [⟨"entityType", _, entityType, _, faithful_ofLabelled⟩,
      ⟨"supportedSoldComms", _, sold, _, faithful_ofLabelled.ofSet⟩,
      ⟨"keyedSoldComms", _, keyedSold, _, faithful_ofLabelled.ofSet⟩,
      ⟨"supportedBoughtComms", _, bought, _, CommodityMap.faithful_toJson⟩,
      ⟨"providerRelationships", _, providerLabels, _, Labels.faithful_toJson⟩,
      ⟨"providerCardinality", _, cardinalities, _, Cardinality.faithful_toJson.ofMap⟩,
      ⟨"linkRelationships", _, linkLabels, _, Labels.faithful_toJson⟩,
      ⟨"hostedByProviderType", _, hosting, _, Labels.faithful_toJson⟩,
      ⟨"hostedByProviderComms", _, hostedCommodities, _, CommodityMap.faithful_toJson⟩,
      ⟨"hostedByProviderProps", _, hostedProperties, _, faithful_string.ofSet.ofMap⟩,
      ⟨"externalLinks", _, links, _, Link.faithful_toJson.list⟩,
      ⟨"templates", _, templates, _, TemplateMeta.faithful_toJson.list⟩]
    (by decide) ?_
  rintro ⟨⟩ ⟨⟩ h
  simp only [List.forall_mem_cons] at h
  obtain ⟨rfl, rfl, rfl, rfl, rfl, rfl, rfl, rfl, rfl, rfl, rfl, rfl, _⟩ := h
  rfl

namespace Chain

/-- A chain is written as the map of its nodes, so no two chains are written alike. -/
theorem faithful_toJson
    : Faithful Chain.toJson where
  exact chain := Node.faithful_toJson.ofMap.exact chain.nodes
  injective h := congrArg Chain.mk (Node.faithful_toJson.ofMap.injective h)

/-- The canonical text of a chain identifies it. Unless the digests of the two texts collide, chains
have the same fingerprint exactly when they are equal. -/
theorem fingerprint_identifies (first second : Chain)
    : (first.toJson.renderCanonical = second.toJson.renderCanonical ↔ first = second)
      ∧ (¬ Sha256.Collide first.toJson.renderCanonical second.toJson.renderCanonical
        → (first.fingerprint = second.fingerprint ↔ first = second)) := by
  have htext : first.toJson.renderCanonical = second.toJson.renderCanonical ↔ first = second :=
    faithful_toJson.renderCanonical_eq_iff
  refine ⟨htext, fun hcollide => ?_⟩
  rw [fingerprint, fingerprint, SupplyGraph.fingerprint, SupplyGraph.fingerprint,
    Sha256.ofText_eq_iff hcollide, htext]

/-- The chain of a lone address, of which nothing is said. -/
def addressChain : Chain := ⟨SortedMap.ofList [(.ip, { entityType := .ip })]⟩

/-- The empty chain and that of a lone address have different digests, and so different
fingerprints. -/
theorem fingerprint_identifies_addressChain
    : ¬ Sha256.Collide (∅ : Chain).toJson.renderCanonical addressChain.toJson.renderCanonical
      ∧ (∅ : Chain).fingerprint ≠ addressChain.fingerprint := by
  -- The texts are digested from their characters, as decoding them again would take long.
  have hdigests
      : Sha256.digest ((∅ : Chain).toJson.canonical.compact.flatMap String.utf8EncodeChar)
        ≠ Sha256.digest (addressChain.toJson.canonical.compact.flatMap String.utf8EncodeChar) := by
    decide +kernel
  have hcollide
      : ¬ Sha256.Collide (∅ : Chain).toJson.renderCanonical
            addressChain.toJson.renderCanonical := by
    intro hcollide
    have hsame := hcollide.2
    simp only [Json.renderCanonical, Json.render, Text.toList_toUTF8, String.toList_ofList] at hsame
    exact hdigests hsame
  exact ⟨hcollide, fun hsame =>
    absurd (((fingerprint_identifies _ _).2 hcollide).mp hsame) (by decide)⟩

end Chain

end SupplyGraph
