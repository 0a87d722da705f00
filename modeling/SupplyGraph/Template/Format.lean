/-!
What the decoder of template documents asks of a document format. The decoder is written once for
all formats; a format says how its values stand for texts, flags, integers, lists and records.
-/

namespace SupplyGraph.Template

/-- The members of a record that were found in a document. -/
abbrev Members (σ : Type) := List (String × σ)

/-- A document format with values `σ`, read in a monad in which reading may fail. Containers are
read with a depth, the number of levels that they may still be nested. -/
class Format (m : Type → Type) (σ : outParam Type) where
  refuse {α : Type} : m α
  text : σ → m String
  flag : σ → m Bool
  integer : σ → m Int32
  /-- Nothing if the value stands for an absent one, else the value that is present. -/
  present? : σ → m (Option σ)
  /-- The items of a list. -/
  items : (depth : Nat) → σ → m (List σ)
  /-- The members of a record that have one of the given names, each at most once. At depth zero
  there are none. -/
  members : (depth : Nat) → (names : List String) → σ → m (Members σ)

namespace Members

variable {m : Type → Type} [Monad m] {σ : Type} {α : Type}

/-- The member with a name. -/
def find? (members : Members σ) (name : String) : Option σ := List.lookup name members

/-- What the member with a name decodes to, or the default if there is no such member. -/
def get (members : Members σ) (name : String) (default : α) (decode : σ → m α) : m α :=
  match members.find? name with
  | none => pure default
  | some value => decode value

/-- An optional value. -/
def getOptional [Format m σ] (members : Members σ) (name : String) (decode : σ → m α)
    : m (Option α) :=
  members.get name none (fun value => do
    match ← Format.present? value with
    | none => return none
    | some value => return some (← decode value))

/-- A list of values. -/
def getList [Format m σ] (members : Members σ) (depth : Nat) (name : String)
    (decode : σ → m α)
    : m (List α) :=
  members.get name [] (fun value => do (← Format.items depth value).mapM decode)

end Members

end SupplyGraph.Template
