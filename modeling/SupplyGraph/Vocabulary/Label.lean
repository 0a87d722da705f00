import SupplyGraph.Sorted.Key
import SupplyGraph.Text.Blank

/-!
Closed vocabularies. Each value is written with exactly one label; a label is read after the
blanks around it are dropped, and any other text is unknown.
-/

namespace SupplyGraph

/-- A finite type whose values are written with labels, listed in the order of the values. -/
class Labelled (α : Type) where
  all : List α
  label : α → String

namespace Labelled

variable {α : Type} [Labelled α]

/-- The value with exactly this label. -/
def ofLabel? (text : String) : Option α :=
  (Labelled.all : List α).find? (fun value => label value == text)

/-- The value whose label the text is, up to blanks at its ends. -/
def parse? (text : String) : Option α := ofLabel? (Text.trim text)

end Labelled

/-- How an unknown token is reported, the blanks at its ends dropped. -/
def unknownTokenMessage (text : String) : String := s!"unknown token \x60{Text.trim text}\x60"

end SupplyGraph
