/-!
Running a check over the items of a list, one after the other and with their positions. The first
item that fails ends the run; what the items before it came to is kept.
-/

namespace SupplyGraph.Sequence

variable {α β ε : Type}

/-- The results of the items before the first one that fails, and its fault, if there is one. -/
def run (check : Nat → α → Except ε β) : (position : Nat) → List α → List β × Option ε
  | _, [] => ([], none)
  | position, item :: rest =>
      match check position item with
      | .error fault => ([], some fault)
      | .ok result =>
          let (results, fault) := run check (position + 1) rest
          (result :: results, fault)

/-- The results of all items, or the first fault. -/
def collect (check : Nat → α → Except ε β) (items : List α) : Except ε (List β) :=
  match run check 0 items with
  | (results, none) => .ok results
  | (_, some fault) => .error fault

end SupplyGraph.Sequence
