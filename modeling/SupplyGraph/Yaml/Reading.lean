import SupplyGraph.Yaml.Document

/-!
Reading values from nodes. Every scalar stands for a text; flags and integers are plain scalars. An
alias stands for what its anchor names, but the number of aliases that are followed is limited, so
that no text unfolds without bound.
-/

namespace SupplyGraph.Yaml

/-- The nodes that numbers stand for. -/
abbrev Targets := List (Nat × Node Nat)

/-- Reading of nodes. The state counts how many more aliases may be followed. -/
abbrev Reading := ReaderT Targets (StateT Nat Option)

/-- The node itself, or the node that an alias stands for. -/
def follow (node : Node Nat) : Reading (Node Nat) := do
  match node.content with
  | .alias number =>
      match (← get), (← read).lookup number with
      | budget + 1, some target => do
          set budget
          return target.content
      | _, _ => failure
  | content => return content

/-- The tag of a type that is defined with the format. -/
def standardTag (name : String) : String := "tag:yaml.org,2002:" ++ name

/-- A scalar stands for a value other than a text if it is plain, or if it is literal and has the
tag of the type. -/
def speaksFor (type : String) (style : ScalarStyle) (tag : Option String) : Bool :=
  style = .plain || (style = .literal && tag = some (standardTag type))

def isNullText (text : String) : Bool := ["null", "Null", "NULL", "~"].contains text

def bool? (text : String) : Option Bool :=
  if ["true", "True", "TRUE"].contains text then some true
  else if ["false", "False", "FALSE"].contains text then some false
  else none

/-- The number that digits stand for in a base of at most sixteen. There is at least one digit. -/
def number? (base : Nat) (digits : List Char) : Option Nat :=
  if digits.isEmpty then none
  else
    digits.foldlM (fun number digit => do
      let value ← Quoted.hexValue? digit
      if value < base then return number * base + value else none) 0

/-- The number that is written without a sign: in hexadecimal, octal or binary behind a mark, else
in decimal without leading zeros. -/
def magnitude? : List Char → Option Nat
  | '0' :: 'x' :: digits => number? 16 digits
  | '0' :: 'o' :: digits => number? 8 digits
  | '0' :: 'b' :: digits => number? 2 digits
  | '0' :: _ :: _ => none
  | digits => number? 10 digits

/-- The integer that is written with or without a sign, if it fits 32 bits. -/
def int32? (text : String) : Option Int32 := do
  let value : Int ←
    match text.toList with
    | '-' :: rest => (magnitude? rest).map (fun magnitude => -(magnitude : Int))
    | '+' :: rest => (magnitude? rest).map Int.ofNat
    | rest => (magnitude? rest).map Int.ofNat
  if Int32.minValue.toInt ≤ value ∧ value ≤ Int32.maxValue.toInt then return Int32.ofInt value
  else none

/-- An optional value is absent where nothing or a null is written. -/
def present? (node : Node Nat) : Reading (Option (Node Nat)) := do
  let node ← follow node
  match node with
  | .scalar .plain none text => return if text.isEmpty || isNullText text then none else some node
  | .scalar .plain (some tag) text =>
      if tag = standardTag "null" then
        if isNullText text then return none else failure
      else return some node
  | _ => return some node

/-- The text that a scalar stands for. -/
def text (node : Node Nat) : Reading String := do
  match ← follow node with
  | .scalar _ _ text => return text
  | _ => failure

def flag (node : Node Nat) : Reading Bool := do
  match ← follow node with
  | .scalar style tag text =>
      if speaksFor "bool" style tag then (bool? text).elim failure pure else failure
  | _ => failure

def integer (node : Node Nat) : Reading Int32 := do
  match ← follow node with
  | .scalar style tag text =>
      if speaksFor "int" style tag then (int32? text).elim failure pure else failure
  | _ => failure

/-- The items of a sequence that may still be nested to a depth. Nothing at all is an empty
sequence. -/
def items (depth : Nat) (node : Node Nat) : Reading (List (Node Nat)) := do
  match ← follow node with
  | .sequence items => if depth = 0 then failure else return items
  | .scalar .plain _ "" => return []
  | _ => failure

/-- The pairs of a mapping whose keys have one of the given names, each at most once. Nothing at all
is an empty mapping. -/
def members (depth : Nat) (names : List String) (node : Node Nat)
    : Reading (List (String × Node Nat)) := do
  match ← follow node with
  | .mapping pairs =>
      if depth = 0 then failure
      else
        let keyed ← pairs.mapM (fun pair => return (← text pair.1, pair.2))
        let known := keyed.filter (fun member => names.contains member.1)
        if (known.map Prod.fst).Nodup then return known else failure
  | .scalar .plain _ "" => return []
  | _ => failure

/-- Collections may be nested this deep. -/
def depthLimit : Nat := 128

/-- Each node of a document may be unfolded this often on average. -/
def repetitionLimit : Nat := 100

/-- What the root of a document is read as. -/
def Document.read {α : Type} (document : Document) (decode : Node Nat → Reading α) : Option α :=
  let budget := repetitionLimit * document.root.size
  (((decode document.root).run document.targets).run budget).map Prod.fst

end SupplyGraph.Yaml
