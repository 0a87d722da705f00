import SupplyGraph.Digest.Sha256
import SupplyGraph.Json.Printer
import SupplyGraph.Node.Json
import SupplyGraph.Node.Merge

/-!
Supply chains. A chain has at most one node for every entity type; nodes are folded into it one by
one, and its fingerprint is the digest of the canonical text of its nodes.
-/

namespace SupplyGraph

/-- The digest of the canonical text of a value. -/
def fingerprint (json : Json) : String := Sha256.ofText json.renderCanonical

/-- The nodes of a graph under their entity types. -/
structure Chain where
  nodes : SortedMap EntityType Node := ∅
deriving DecidableEq, Repr

namespace Chain

instance : EmptyCollection Chain := ⟨{}⟩

/-- Takes in a node: the chain afterwards, and the fault if there is one. The node is merged into
the one that the chain has for its entity type, if there is such a node; a conflict between the two
is a fault of the class that the entry names. -/
def absorb (chain : Chain) (node : Node) : Chain × Option Fault :=
  match chain.nodes.find? node.entityType with
  | none => (⟨chain.nodes.insert node.entityType node⟩, none)
  | some present =>
      let (merged, conflict) := present.absorb node
      (⟨chain.nodes.insert node.entityType merged⟩,
        conflict.map (fun cause => ⟨[.field "templateClass"], cause⟩))

/-- The chain that has taken in a node, or the fault. -/
def fold (chain : Chain) (node : Node) : Except Fault Chain :=
  match chain.absorb node with
  | (next, none) => .ok next
  | (_, some fault) => .error fault

def node? (chain : Chain) (entityType : EntityType) : Option Node := chain.nodes.find? entityType

def contains (chain : Chain) (entityType : EntityType) : Bool := chain.nodes.contains entityType

/-- The entity types that have a node, in ascending order. -/
def entityTypes (chain : Chain) : List EntityType := chain.nodes.keys

/-- The nodes, in ascending order of the entity types that they are found under. -/
def nodeList (chain : Chain) : List Node := chain.nodes.entries.map Prod.snd

def size (chain : Chain) : Nat := chain.nodes.size

def isEmpty (chain : Chain) : Bool := chain.nodes.isEmpty

/-- The nodes as an object with a member for every entity type. -/
def toJson (chain : Chain) : Json := Json.ofMap Node.toJson chain.nodes

def fingerprint (chain : Chain) : String := SupplyGraph.fingerprint chain.toJson

end Chain

end SupplyGraph
