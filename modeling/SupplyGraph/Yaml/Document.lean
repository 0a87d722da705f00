import SupplyGraph.Yaml.Layout
import SupplyGraph.Yaml.Node

/-!
The document that a YAML text holds. Its tokens are read by recursive descent; a text holds one
document, and an empty text holds an empty scalar.
-/

namespace SupplyGraph.Yaml

/-- What the handles of tags stand for. -/
abbrev Handles := List (String × String)

/-- Handles that need no directive. -/
def standardHandles : Handles := [("!", "!"), ("!!", "tag:yaml.org,2002:")]

/-- The tag with a handle and a suffix. The empty handle stands for itself. -/
def tag? (handles : Handles) (handle suffix : String) : Option String :=
  if handle.isEmpty then some suffix else (handles.lookup handle).map (· ++ suffix)

/-- What stands in front of the content of a node. -/
structure Properties where
  anchor : Option String
  tag : Option String

namespace Properties

/-- An anchor and a tag in either order; both may be missing. -/
def take (handles : Handles) : List Token → Option (Properties × List Token)
  | .anchor name :: .tag handle suffix :: rest
  | .tag handle suffix :: .anchor name :: rest =>
      (tag? handles handle suffix).map (fun tag => (⟨some name, some tag⟩, rest))
  | .anchor name :: rest => some (⟨some name, none⟩, rest)
  | .tag handle suffix :: rest =>
      (tag? handles handle suffix).map (fun tag => (⟨none, some tag⟩, rest))
  | rest => some (⟨none, none⟩, rest)

def isEmpty (properties : Properties) : Bool := properties.anchor.isNone && properties.tag.isNone

/-- Gives a node the name that an anchor has for it. -/
def nameNode (properties : Properties) (node : Node String) : Node String :=
  match properties.anchor with
  | none => node
  | some name => .anchored name node

end Properties

/-! ### Tokens in front of which an empty node may stand -/

/-- An item of a block sequence is empty if the next item or the end of the sequence follows. -/
def endsItem : Token → Bool
  | .blockEntry | .blockEnd => true
  | _ => false

/-- A key or value of a block mapping is empty if another part of the mapping or its end follows. -/
def endsPart : Token → Bool
  | .key | .value | .blockEnd => true
  | _ => false

/-- An item of a sequence without indentation of its own ends where an item of a sequence or a part
of the mapping around it does. -/
def endsIndentlessItem (token : Token) : Bool := token = .blockEntry || endsPart token

/-- A value in a flow sequence is empty if the item ends. -/
def endsFlowItem : Token → Bool
  | .flowEntry | .flowSequenceEnd => true
  | _ => false

/-- A value in a flow mapping is empty if the pair ends. -/
def endsFlowPart : Token → Bool
  | .flowEntry | .flowMappingEnd => true
  | _ => false

/-- The content of a document is empty if another document or the end of the text follows. -/
def endsContent : Token → Bool
  | .version _ _ | .tagHandle _ _ | .documentStart | .documentEnd | .streamEnd => true
  | _ => false

/-! ### Nodes -/

mutual

/-- The node at the front of a list of tokens. Block collections are read in block context only,
and a sequence without indentation of its own only where one may stand. The fuel bounds the number
of nested calls. -/
def takeNode (handles : Handles) (block indentless : Bool)
    : (fuel : Nat) → List Token → Option (Node String × List Token)
  | 0, _ => none
  | _ + 1, .alias name :: rest => some (.alias name, rest)
  | fuel + 1, tokens => do
      let (properties, rest) ← Properties.take handles tokens
      let (node, rest) ←
        match rest with
        | .scalar style text :: rest =>
            some (.scalar style properties.tag text, rest)
        | .flowSequenceStart :: rest =>
            (takeFlowItems handles true fuel rest).map (fun (items, rest) =>
              (.sequence items, rest))
        | .flowMappingStart :: rest =>
            (takeFlowPairs handles true fuel rest).map (fun (pairs, rest) =>
              (.mapping pairs, rest))
        | token :: rest =>
            if indentless && token = .blockEntry then
              (takeIndentlessItems handles fuel (token :: rest)).map (fun (items, rest) =>
                (.sequence items, rest))
            else if block && token = .sequenceStart then
              (takeItems handles fuel rest).map (fun (items, rest) => (.sequence items, rest))
            else if block && token = .mappingStart then
              (takePairs handles fuel rest).map (fun (pairs, rest) => (.mapping pairs, rest))
            else if properties.isEmpty then none
            else some (.scalar .plain properties.tag "", token :: rest)
        | [] => none
      return (properties.nameNode node, rest)

/-- A node, or the empty node if one of the given tokens is next. -/
def takeUnless (handles : Handles) (ends : Token → Bool) (block indentless : Bool)
    : (fuel : Nat) → List Token → Option (Node String × List Token)
  | 0, _ => none
  | fuel + 1, tokens =>
      if tokens.head?.any ends then some (.empty, tokens)
      else takeNode handles block indentless fuel tokens

/-- The items of a block sequence. -/
def takeItems (handles : Handles)
    : (fuel : Nat) → List Token → Option (List (Node String) × List Token)
  | fuel + 1, .blockEntry :: rest => do
      let (item, rest) ← takeUnless handles endsItem true false fuel rest
      let (items, rest) ← takeItems handles fuel rest
      return (item :: items, rest)
  | _ + 1, .blockEnd :: rest => some ([], rest)
  | _, _ => none

/-- The items of a block sequence that is indented no more than the mapping around it. -/
def takeIndentlessItems (handles : Handles)
    : (fuel : Nat) → List Token → Option (List (Node String) × List Token)
  | 0, _ => none
  | fuel + 1, .blockEntry :: rest => do
      let (item, rest) ← takeUnless handles endsIndentlessItem true false fuel rest
      let (items, rest) ← takeIndentlessItems handles fuel rest
      return (item :: items, rest)
  | _ + 1, tokens => some ([], tokens)

/-- The pairs of a block mapping. -/
def takePairs (handles : Handles)
    : (fuel : Nat) → List Token → Option (List (Node String × Node String) × List Token)
  | fuel + 1, .key :: rest => do
      let (key, rest) ← takeUnless handles endsPart true true fuel rest
      let (value, rest) ← takeValue handles endsPart true fuel rest
      let (pairs, rest) ← takePairs handles fuel rest
      return ((key, value) :: pairs, rest)
  | _ + 1, .blockEnd :: rest => some ([], rest)
  | _, _ => none

/-- The value of a pair, which is empty if it is not announced. -/
def takeValue (handles : Handles) (ends : Token → Bool) (block : Bool)
    : (fuel : Nat) → List Token → Option (Node String × List Token)
  | 0, _ => none
  | fuel + 1, .value :: rest => takeUnless handles ends block block fuel rest
  | _ + 1, tokens => some (.empty, tokens)

/-- The items of a flow sequence, separated by commas. -/
def takeFlowItems (handles : Handles) (first : Bool)
    : (fuel : Nat) → List Token → Option (List (Node String) × List Token)
  | 0, _ => none
  | _ + 1, .flowSequenceEnd :: rest => some ([], rest)
  | fuel + 1, .flowEntry :: rest =>
      if first then none else takeFlowItem handles fuel rest
  | fuel + 1, tokens =>
      if first then takeFlowItem handles fuel tokens else none

/-- An item of a flow sequence and the items after it. There may be none behind a comma. -/
def takeFlowItem (handles : Handles)
    : (fuel : Nat) → List Token → Option (List (Node String) × List Token)
  | 0, _ => none
  | _ + 1, .flowSequenceEnd :: rest => some ([], rest)
  | fuel + 1, .key :: rest => do
      let (pair, rest) ← takeFlowPair handles fuel rest
      let (items, rest) ← takeFlowItems handles false fuel rest
      return (.mapping [pair] :: items, rest)
  | fuel + 1, tokens => do
      let (item, rest) ← takeNode handles false false fuel tokens
      let (items, rest) ← takeFlowItems handles false fuel rest
      return (item :: items, rest)

/-- A pair that stands in a flow sequence and makes up a mapping by itself. An empty key swallows
the token behind it. -/
def takeFlowPair (handles : Handles)
    : (fuel : Nat) → List Token → Option ((Node String × Node String) × List Token)
  | 0, _ => none
  | _ + 1, [] => none
  | fuel + 1, token :: rest => do
      let (key, rest) ←
        if token = .value || endsFlowItem token then some (.empty, rest)
        else takeNode handles false false fuel (token :: rest)
      let (value, rest) ← takeValue handles endsFlowItem false fuel rest
      return ((key, value), rest)

/-- The pairs of a flow mapping, separated by commas. -/
def takeFlowPairs (handles : Handles) (first : Bool)
    : (fuel : Nat) → List Token → Option (List (Node String × Node String) × List Token)
  | 0, _ => none
  | _ + 1, .flowMappingEnd :: rest => some ([], rest)
  | fuel + 1, .flowEntry :: rest =>
      if first then none else takeFlowMember handles fuel rest
  | fuel + 1, tokens =>
      if first then takeFlowMember handles fuel tokens else none

/-- A pair of a flow mapping and the pairs after it. There may be none behind a comma. -/
def takeFlowMember (handles : Handles)
    : (fuel : Nat) → List Token → Option (List (Node String × Node String) × List Token)
  | 0, _ => none
  | _ + 1, .flowMappingEnd :: rest => some ([], rest)
  | fuel + 1, .key :: rest => do
      let ends (token : Token) : Bool := token = .value || endsFlowPart token
      let (key, rest) ← takeUnless handles ends false false fuel rest
      let (value, rest) ← takeValue handles endsFlowPart false fuel rest
      let (pairs, rest) ← takeFlowPairs handles false fuel rest
      return ((key, value) :: pairs, rest)
  | fuel + 1, tokens => do
      let (key, rest) ← takeNode handles false false fuel tokens
      let (pairs, rest) ← takeFlowPairs handles false fuel rest
      return ((key, .empty) :: pairs, rest)

end

/-! ### Documents -/

/-- The handles that directives define. The version is given once at most, and every handle once at
most. -/
def takeDirectives (versioned : Bool) (handles : Handles)
    : List Token → Option (Handles × List Token)
  | .version major minor :: rest =>
      if versioned || major ≠ 1 || (minor ≠ 1 && minor ≠ 2) then none
      else takeDirectives true handles rest
  | .tagHandle handle start :: rest =>
      if (handles.lookup handle).isSome then none
      else takeDirectives versioned ((handle, start) :: handles) rest
  | tokens => some (handles, tokens)

/-- The root of the only document in a list of tokens. -/
def takeDocument (tokens : List Token) : Option (Node String × List Token) :=
  let fuel := 4 * tokens.length + 4
  match tokens with
  | [.streamEnd] => some (.empty, tokens)
  | token :: _ =>
      if endsContent token && token ≠ .documentEnd then do
        let (handles, rest) ← takeDirectives false [] tokens
        match rest with
        | .documentStart :: rest =>
            takeUnless (handles ++ standardHandles) endsContent true false fuel rest
        | _ => none
      else takeNode standardHandles true false fuel tokens
  | [] => none

/-- A document: its root, with numbers for names. -/
structure Document where
  root : Node Nat
deriving Repr

namespace Document

/-- The document that the tokens of a text make up. Behind it there is nothing. -/
def ofTokens? (tokens : List Token) : Option Document := do
  let (root, rest) ← takeDocument tokens
  if rest.dropWhile (· = .documentEnd) = [.streamEnd] then
    let (root, _) ← root.number? ∅
    return ⟨root⟩
  else none

/-- The document that a text holds. -/
def ofText? (text : String) : Option Document := do ofTokens? (← tokens? text.toList)

/-- The nodes that numbers stand for: of all nodes with a number the last one to start, so it comes
first. -/
def targets (document : Document) : List (Nat × Node Nat) := document.root.anchors.reverse

end Document

end SupplyGraph.Yaml
