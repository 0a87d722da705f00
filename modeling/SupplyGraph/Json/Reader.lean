import SupplyGraph.Json.Token
import SupplyGraph.Json.Value

/-!
Reading JSON texts. The tokens of a text are taken one by one into the containers that are still
open; the text is a value if the last token completes it. A key that stands for no text makes its
object unreadable.
-/

namespace SupplyGraph.Json

/-- A container that is still open, its finished contents in reverse order. An object under
construction may wait for the value of a key. -/
inductive Frame where
  | array (items : List Json)
  | object (members : List (Option String × Json))
  | member (members : List (Option String × Json)) (key : Option String)
deriving Repr

/-- What may come next. -/
inductive Expectation where
  | value
  | firstItem
  | firstKey
  | key
  | colon (key : Option String)
  | separator
  | nothing (result : Json)
deriving Repr

/-- The open containers, the innermost first, and what may come next. -/
structure Assembly where
  frames : List Frame
  expected : Expectation
deriving Repr

namespace Assembly

def start : Assembly := ⟨[], .value⟩

/-- Hands a finished value to the innermost open container. -/
def deliver (json : Json) : List Frame → Option Assembly
  | [] => some ⟨[], .nothing json⟩
  | .array items :: outer => some ⟨.array (json :: items) :: outer, .separator⟩
  | .member members key :: outer => some ⟨.object ((key, json) :: members) :: outer, .separator⟩
  | .object _ :: _ => none

/-- The object with these members, if all keys are texts. -/
def finishObject (members : List (Option String × Json)) : Json :=
  match members.mapM (fun (key, value) => key.map (·, value)) with
  | some members => .object members.reverse
  | none => .unreadable

/-- Opens a container or delivers a value where a value may stand. -/
def takeValue (frames : List Frame) : Token → Option Assembly
  | .openArray => some ⟨.array [] :: frames, .firstItem⟩
  | .openObject => some ⟨.object [] :: frames, .firstKey⟩
  | .null => deliver .null frames
  | .bool value => deliver (.bool value) frames
  | .number (some value) => deliver (.number value) frames
  | .number none => deliver .unreadable frames
  | .string (some value) => deliver (.string value) frames
  | .string none => deliver .unreadable frames
  | _ => none

/-- Takes in the next token. -/
def step (assembly : Assembly) (token : Token) : Option Assembly :=
  match assembly.expected, token, assembly.frames with
  | .value, token, frames => takeValue frames token
  | .firstItem, .closeArray, .array items :: outer => deliver (.array items.reverse) outer
  | .firstItem, token, frames => takeValue frames token
  | .firstKey, .closeObject, .object members :: outer => deliver (finishObject members) outer
  | .firstKey, .string key, frames => some ⟨frames, .colon key⟩
  | .key, .string key, frames => some ⟨frames, .colon key⟩
  | .colon key, .colon, .object members :: outer => some ⟨.member members key :: outer, .value⟩
  | .separator, .comma, .array items :: outer => some ⟨.array items :: outer, .value⟩
  | .separator, .comma, .object members :: outer => some ⟨.object members :: outer, .key⟩
  | .separator, .closeArray, .array items :: outer => deliver (.array items.reverse) outer
  | .separator, .closeObject, .object members :: outer => deliver (finishObject members) outer
  | _, _, _ => none

end Assembly

/-- The value that a list of tokens spells. -/
def ofTokens? (tokens : List Token) : Option Json :=
  match tokens.foldlM Assembly.step Assembly.start with
  | some ⟨[], .nothing json⟩ => some json
  | _ => none

/-- The value of a text, however deep its containers are nested. -/
def parse? (text : String) : Option Json := do
  ofTokens? (← Token.readAll text.toList)

/-- How deep containers are nested in a list of tokens, inside containers already open. -/
def nesting (opened : Nat) : List Token → Nat
  | [] => opened
  | .openArray :: rest | .openObject :: rest => max opened (nesting (opened + 1) rest)
  | .closeArray :: rest | .closeObject :: rest => max opened (nesting (opened - 1) rest)
  | _ :: rest => nesting opened rest

/-- Containers that are read may be nested this deep. -/
def depthLimit : Nat := 127

/-- The value of a text that is read as a whole: nothing in it is nested too deep, and all its
literals stand for something. -/
def read? (text : String) : Option Json := do
  let tokens ← Token.readAll text.toList
  let json ← ofTokens? tokens
  if nesting 0 tokens ≤ depthLimit && json.isReadable then return json else none

end SupplyGraph.Json
