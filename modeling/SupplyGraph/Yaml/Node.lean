import SupplyGraph.Sorted.Map
import SupplyGraph.Yaml.Token

/-!
The nodes of a YAML document. An anchor gives a node a name and an alias stands for a node by its
name; names are first those of the text, and then numbers that say which node is meant.
-/

namespace SupplyGraph.Yaml

/-- A node whose anchors and aliases are named by `ν`. -/
inductive Node (ν : Type) where
  | scalar (style : ScalarStyle) (tag : Option String) (text : String)
  | sequence (items : List (Node ν))
  | mapping (pairs : List (Node ν × Node ν))
  | anchored (name : ν) (node : Node ν)
  | alias (name : ν)
deriving Repr, Inhabited

/-- The numbers that names have at some place in a text. -/
abbrev Numbering := SortedMap String Nat

namespace Node

variable {ν : Type}

/-- What is written as nothing at all. -/
def empty : Node ν := .scalar .plain none ""

/-- The node without its anchors. -/
def content : Node ν → Node ν
  | .anchored _ node => node.content
  | node => node
termination_by structural node => node

mutual

/-- The number of places in the text where a scalar or an alias stands or where a collection starts
or ends. -/
def size : Node ν → Nat
  | .sequence items => itemsSize items + 2
  | .mapping pairs => pairsSize pairs + 2
  | .anchored _ node => node.size
  | _ => 1
termination_by structural node => node

def itemsSize : List (Node ν) → Nat
  | [] => 0
  | item :: rest => item.size + itemsSize rest
termination_by structural items => items

def pairsSize : List (Node ν × Node ν) → Nat
  | [] => 0
  | (key, value) :: rest => key.size + value.size + pairsSize rest
termination_by structural pairs => pairs

end

mutual

/-- The nodes that have an anchor, in the order in which they start. -/
def anchors : Node ν → List (ν × Node ν)
  | .sequence items => itemsAnchors items
  | .mapping pairs => pairsAnchors pairs
  | .anchored name node => (name, node) :: node.anchors
  | _ => []
termination_by structural node => node

def itemsAnchors : List (Node ν) → List (ν × Node ν)
  | [] => []
  | item :: rest => item.anchors ++ itemsAnchors rest
termination_by structural items => items

def pairsAnchors : List (Node ν × Node ν) → List (ν × Node ν)
  | [] => []
  | (key, value) :: rest => key.anchors ++ value.anchors ++ pairsAnchors rest
termination_by structural pairs => pairs

end

mutual

/-- Replaces names by numbers, in the order of the text. An anchor gets as its number the number of
names known so far, whether or not its own name is among them; an alias to an unknown name has no
number. -/
def number? (numbering : Numbering) : Node String → Option (Node Nat × Numbering)
  | .scalar style tag text => some (.scalar style tag text, numbering)
  | .sequence items => do
      let (items, numbering) ← numberItems? numbering items
      return (.sequence items, numbering)
  | .mapping pairs => do
      let (pairs, numbering) ← numberPairs? numbering pairs
      return (.mapping pairs, numbering)
  | .anchored name node => do
      let (node, extended) ← node.number? (numbering.insert name numbering.size)
      return (.anchored numbering.size node, extended)
  | .alias name => (numbering.find? name).map (fun number => (.alias number, numbering))
termination_by structural node => node

def numberItems? (numbering : Numbering)
    : List (Node String) → Option (List (Node Nat) × Numbering)
  | [] => some ([], numbering)
  | item :: rest => do
      let (item, numbering) ← item.number? numbering
      let (rest, numbering) ← numberItems? numbering rest
      return (item :: rest, numbering)
termination_by structural items => items

def numberPairs? (numbering : Numbering)
    : List (Node String × Node String) → Option (List (Node Nat × Node Nat) × Numbering)
  | [] => some ([], numbering)
  | (key, value) :: rest => do
      let (key, numbering) ← key.number? numbering
      let (value, numbering) ← value.number? numbering
      let (rest, numbering) ← numberPairs? numbering rest
      return ((key, value) :: rest, numbering)
termination_by structural pairs => pairs

end

end Node

end SupplyGraph.Yaml
