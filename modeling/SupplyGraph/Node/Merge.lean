import SupplyGraph.Node.Basic

/-!
Merging of nodes. A node has one label for every provider: the one from its bought groups, or else
the one from its links, or else the one that its hosting map has. Nodes that disagree on a label do
not merge; otherwise everything that one of them says holds of the merged node.
-/

namespace SupplyGraph.Node

/-- The label of every provider of the node. -/
def labels (node : Node) : Labels :=
  SortedMap.union (SortedMap.union node.providerLabels node.linkLabels) node.hosting

/-- Adds everything that another node says. The cardinalities and labels that the node has stay. -/
def extend (node other : Node) : Node :=
  { node with
    sold := node.sold ∪ other.sold
    keyedSold := node.keyedSold ∪ other.keyedSold
    bought := SortedMap.unionWith (· ∪ ·) node.bought other.bought
    providerLabels := SortedMap.union node.providerLabels other.providerLabels
    cardinalities := SortedMap.union node.cardinalities other.cardinalities
    linkLabels := SortedMap.union node.linkLabels other.linkLabels
    hosting := SortedMap.union node.hosting other.hosting
    hostedCommodities :=
      SortedMap.unionWith (· ∪ ·) node.hostedCommodities other.hostedCommodities
    hostedProperties := SortedMap.unionWith (· ∪ ·) node.hostedProperties other.hostedProperties
    links := node.links ++ other.links
    templates := node.templates ++ other.templates }

/-- Merges another node into the node: the node afterwards, and the conflict if there is one. The
entity types of the two are not compared. -/
def absorb (node other : Node) : Node × Option Cause :=
  match Labels.firstDifference? node.labels other.labels with
  | some (provider, existing, declared) =>
      (node, some (.conflictingNodes node.entityType provider existing declared))
  | none => (node.extend other, none)

/-- The node that another node has been merged into, or the conflict. -/
def merge (node other : Node) : Except Cause Node :=
  match node.absorb other with
  | (merged, none) => .ok merged
  | (_, some cause) => .error cause

end SupplyGraph.Node
