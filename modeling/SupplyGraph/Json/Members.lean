import SupplyGraph.Json.Value

/-!
Records in JSON texts. An object stands for a record by its members; an array stands for one by
its items, which are the members in the order in which the record lists their names.
-/

namespace SupplyGraph.Json

/-- The members with one of the given names; none if such a name occurs twice. -/
def known? (names : List String) (members : List (String × Json))
    : Option (List (String × Json)) :=
  let known := members.filter (fun member => names.contains member.1)
  if (known.map Prod.fst).Nodup then some known else none

/-- The members of a record with the given names. An array that stands for the record has at least
the given number of items and at most one for each name. -/
def members? (names : List String) (least : Nat) : Json → Option (List (String × Json))
  | .object members => known? names members
  | .array items =>
      if least ≤ items.length ∧ items.length ≤ names.length then some (names.zip items)
      else none
  | _ => none

/-- The integer that a value is, if it fits 32 bits. -/
def int32? : Json → Option Int32
  | .number (.integer value) =>
      if Int32.minValue.toInt ≤ value ∧ value ≤ Int32.maxValue.toInt then some (Int32.ofInt value)
      else none
  | _ => none

def string? : Json → Option String
  | .string value => some value
  | _ => none

def bool? : Json → Option Bool
  | .bool value => some value
  | _ => none

def items? : Json → Option (List Json)
  | .array items => some items
  | _ => none

/-- Nothing for null, and every other value as it is. -/
def nonNull? : Json → Option Json
  | .null => none
  | json => some json

/-- What the member with a name decodes to. -/
def member? {α : Type} (members : List (String × Json)) (name : String)
    (decode : Json → Option α)
    : Option α :=
  (members.lookup name).bind decode

/-- What the member with a name decodes to if there is one that is not null. -/
def optionalMember? {α : Type} (members : List (String × Json)) (name : String)
    (decode : Json → Option α)
    : Option (Option α) :=
  match (members.lookup name).bind nonNull? with
  | none => some none
  | some value => (decode value).map some

/-- The values that the items of an array decode to. -/
def list? {α : Type} (decode : Json → Option α) (json : Json) : Option (List α) := do
  (← json.items?).mapM decode

end SupplyGraph.Json
