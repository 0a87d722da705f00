import SupplyGraph.Json.Number
import SupplyGraph.Sorted.Map

/-!
JSON values. The members of an object stand in the order in which they are written. A literal
that is well formed but stands for no value, such as half of a surrogate pair, is kept as
unreadable, so that it may occur where nobody reads it.
-/

namespace SupplyGraph

inductive Json where
  | null
  | bool (value : Bool)
  | number (value : Json.Number)
  | string (value : String)
  | array (items : List Json)
  | object (members : List (String × Json))
  | unreadable
deriving Repr, Inhabited

namespace Json

/-- An integer as a JSON value. -/
def integer (value : Int) : Json := .number (.integer value)

/-- A value, or null where there is none. -/
def optional {α : Type} (encode : α → Json) : Option α → Json
  | none => .null
  | some value => encode value

mutual

/-- Every literal in the value stands for something. -/
def isReadable : Json → Bool
  | .array items => areReadable items
  | .object members => membersReadable members
  | .unreadable => false
  | _ => true
termination_by structural json => json

def areReadable : List Json → Bool
  | [] => true
  | item :: rest => item.isReadable && areReadable rest
termination_by structural items => items

def membersReadable : List (String × Json) → Bool
  | [] => true
  | (_, value) :: rest => value.isReadable && membersReadable rest
termination_by structural members => members

end

mutual

/-- The value with the members of every object in ascending order of their keys. Where a key is
repeated, the last member with it stays. -/
def canonical : Json → Json
  | .array items => .array (canonicalItems items)
  | .object members => .object (SortedMap.ofList (canonicalMembers members)).entries
  | json => json
termination_by structural json => json

def canonicalItems : List Json → List Json
  | [] => []
  | item :: rest => item.canonical :: canonicalItems rest
termination_by structural items => items

def canonicalMembers : List (String × Json) → List (String × Json)
  | [] => []
  | (key, value) :: rest => (key, value.canonical) :: canonicalMembers rest
termination_by structural members => members

end

end Json

end SupplyGraph
