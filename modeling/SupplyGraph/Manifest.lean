import SupplyGraph.Compiler
import SupplyGraph.Template.Json

/-!
Manifests of compilations: which engine compiled which source to which chain.
-/

namespace SupplyGraph

def engineVersion : String := "1.0.0"

/-- The digest of the version of an engine and the canonical text of a source, a colon between. -/
def sourceHash (version : String) (source : Json) : String :=
  Sha256.ofText (version ++ ":" ++ source.renderCanonical)

/-- A compiled chain and what it was compiled from. The random identifier and the time of creation
that go with a manifest say nothing about either and are left out. -/
structure Manifest where
  engineVersion : String
  sourceHash : String
  fingerprint : String
  entryCount : Nat
  chain : Chain

namespace Manifest

/-- The manifest of a document. -/
def ofDocument (vocabulary : Vocabulary) (document : Template.Document)
    : Except Rejection Manifest := do
  let chain ← compile vocabulary document
  return {
    engineVersion := SupplyGraph.engineVersion
    sourceHash := SupplyGraph.sourceHash SupplyGraph.engineVersion document.toJson
    fingerprint := chain.fingerprint
    entryCount := document.entries.length
    chain }

/-- How a manifest reports that its document was rejected. -/
def rejectionMessage (rejection : Rejection) : String :=
  "Supply chain invalid: " ++ rejection.message

def toJson (manifest : Manifest) : Json :=
  .object
    [("engineVersion", .string manifest.engineVersion),
      ("sourceHash", .string manifest.sourceHash),
      ("fingerprint", .string manifest.fingerprint),
      ("entryCount", Json.integer manifest.entryCount),
      ("supplyChain", .object [("nodeMap", manifest.chain.toJson)])]

end Manifest

end SupplyGraph
