import SupplyGraph.Manifest
import SupplyGraph.Proofs.Digest.Collision
import SupplyGraph.Proofs.Json.Canonical
import SupplyGraph.Proofs.Json.Scanning
import SupplyGraph.Proofs.Json.Spelling
import SupplyGraph.Proofs.Template.Encoding

/-!
Digests of sources. The text that a source is digested from is the version of an engine, a colon and
the canonical text of the source. All of them may have colons in them, and still the text can only
be taken apart in one way.
-/

namespace SupplyGraph

theorem version_source_inj {version other : String} {source target : Json}
    : version ++ ":" ++ source.renderCanonical = other ++ ":" ++ target.renderCanonical
      ↔ version = other ∧ source.renderCanonical = target.renderCanonical := by
  have hchars := @Json.append_colon_compact_inj version.toList other.toList source.canonical
    target.canonical
  simpa [Json.renderCanonical, Json.render, ← String.toList_inj] using hchars

/-- The version and the canonical text of a source can be told from the text that is digested.
Unless the digests of two such texts collide, sources have the same digest exactly when the versions
are the same and the canonical forms are. Where every key stands once, the canonical forms are the
same exactly when the sources differ only in the order of members, and for template documents
exactly when they are the same documents. -/
theorem sourceHash_identifies (version other : String)
    : (∀ source target : Json,
        version ++ ":" ++ source.renderCanonical = other ++ ":" ++ target.renderCanonical
        ↔ version = other ∧ source.renderCanonical = target.renderCanonical)
      ∧ (∀ source target : Json,
        ¬ Sha256.Collide (version ++ ":" ++ source.renderCanonical)
            (other ++ ":" ++ target.renderCanonical)
        → (sourceHash version source = sourceHash other target
            ↔ version = other ∧ source.canonical = target.canonical)
          ∧ (source.HasDistinctKeys
            → target.HasDistinctKeys
            → (sourceHash version source = sourceHash other target
              ↔ version = other ∧ source.SameUpToOrder target)))
      ∧ (∀ first second : Template.Document,
        ¬ Sha256.Collide (version ++ ":" ++ first.toJson.renderCanonical)
            (other ++ ":" ++ second.toJson.renderCanonical)
        → (sourceHash version first.toJson = sourceHash other second.toJson
          ↔ version = other ∧ first = second)) := by
  have hdigest {source target : Json}
      (h
        : ¬ Sha256.Collide (version ++ ":" ++ source.renderCanonical)
            (other ++ ":" ++ target.renderCanonical))
      : sourceHash version source = sourceHash other target
        ↔ version = other ∧ source.renderCanonical = target.renderCanonical := by
    rw [sourceHash, sourceHash, Sha256.ofText_eq_iff h, version_source_inj]
  refine ⟨fun _ _ => version_source_inj, fun source target h => ?_, fun first second h => ?_⟩
  · have hcanonical
        : sourceHash version source = sourceHash other target
          ↔ version = other ∧ source.canonical = target.canonical := by
      rw [hdigest h, Json.renderCanonical_eq_iff]
    refine ⟨hcanonical, fun hs ht => ?_⟩
    rw [hcanonical, Json.canonical_eq_iff hs ht]
  · rw [hdigest h, Template.Document.faithful_toJson.renderCanonical_eq_iff]

/-- The texts of these two sources differ in the last bracket only, as the version in one of them
goes on like the other source. -/
theorem sourceHash_identifies_openVersion
    : ¬ Sha256.Collide
          ("0.1" ++ ":" ++ (Json.object [("a", .object [])]).renderCanonical)
          ("0.1:\x7b\"a\"" ++ ":" ++ (Json.object []).renderCanonical)
      ∧ sourceHash "0.1" (.object [("a", .object [])])
        ≠ sourceHash "0.1:\x7b\"a\"" (.object []) := by
  have hdigests
      : Sha256.digest
            ("0.1" ++ ":" ++ (Json.object [("a", .object [])]).renderCanonical).toUTF8.toList
        ≠ Sha256.digest
            ("0.1:\x7b\"a\"" ++ ":" ++ (Json.object []).renderCanonical).toUTF8.toList := by
    decide +kernel
  have hcollide
      : ¬ Sha256.Collide
          ("0.1" ++ ":" ++ (Json.object [("a", .object [])]).renderCanonical)
          ("0.1:\x7b\"a\"" ++ ":" ++ (Json.object []).renderCanonical) :=
    fun h => hdigests h.2
  refine ⟨hcollide, fun h => ?_⟩
  have hversion := (((sourceHash_identifies _ _).2.1 _ _ hcollide).1.mp h).1
  exact absurd hversion (by decide)

end SupplyGraph
