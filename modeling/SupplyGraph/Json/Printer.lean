import SupplyGraph.Json.Token
import SupplyGraph.Json.Value

/-!
JSON texts of values: the compact text, in which nothing stands between the tokens, and the
indented text, in which every item and every member has a line of its own.
-/

namespace SupplyGraph.Json

mutual

/-- The tokens of the text of a value. -/
def tokens : Json → List Token
  | .null => [.null]
  | .bool value => [.bool value]
  | .number value => [.number (some value)]
  | .string value => [.string (some value)]
  | .array items => .openArray :: itemTokens items ++ [.closeArray]
  | .object members => .openObject :: memberTokens members ++ [.closeObject]
  | .unreadable => [.string none]
termination_by structural json => json

/-- The tokens of the items of an array, with commas between the items. -/
def itemTokens : List Json → List Token
  | [] => []
  | item :: rest => tokens item ++ laterItemTokens rest
termination_by structural items => items

def laterItemTokens : List Json → List Token
  | [] => []
  | item :: rest => .comma :: tokens item ++ laterItemTokens rest
termination_by structural items => items

/-- The tokens of the members of an object, with commas between the members. -/
def memberTokens : List (String × Json) → List Token
  | [] => []
  | (key, value) :: rest =>
      .string (some key) :: .colon :: tokens value ++ laterMemberTokens rest
termination_by structural members => members

def laterMemberTokens : List (String × Json) → List Token
  | [] => []
  | (key, value) :: rest =>
      .comma :: .string (some key) :: .colon :: tokens value ++ laterMemberTokens rest
termination_by structural members => members

end

/-- The compact text of a value. -/
def compact (json : Json) : List Char := (tokens json).flatMap Token.spell

def render (json : Json) : String := String.ofList json.compact

/-- The start of a line at a depth. -/
def lineStart (depth : Nat) : List Char := '\n' :: List.replicate (2 * depth) ' '

mutual

/-- The indented text of a value that stands at a depth. -/
def indented (depth : Nat) : Json → List Char
  | .array [] => ['[', ']']
  | .array (item :: rest) =>
      '[' :: lineStart (depth + 1) ++ indented (depth + 1) item
        ++ indentedItems (depth + 1) rest ++ lineStart depth ++ [']']
  | .object [] => ['\x7b', '\x7d']
  | .object ((key, value) :: rest) =>
      '\x7b' :: lineStart (depth + 1) ++ quote key.toList ++ [':', ' ']
        ++ indented (depth + 1) value ++ indentedMembers (depth + 1) rest ++ lineStart depth
        ++ ['\x7d']
  | json => compact json
termination_by structural json => json

def indentedItems (depth : Nat) : List Json → List Char
  | [] => []
  | item :: rest => ',' :: lineStart depth ++ indented depth item ++ indentedItems depth rest
termination_by structural items => items

def indentedMembers (depth : Nat) : List (String × Json) → List Char
  | [] => []
  | (key, value) :: rest =>
      ',' :: lineStart depth ++ quote key.toList ++ [':', ' '] ++ indented depth value
        ++ indentedMembers depth rest
termination_by structural members => members

end

/-- The indented text of a value. -/
def renderIndented (json : Json) : String := String.ofList (indented 0 json)

/-- The compact text with the members of every object in ascending key order. -/
def renderCanonical (json : Json) : String := json.canonical.render

end SupplyGraph.Json
