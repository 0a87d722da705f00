import SupplyGraph.Proofs.Text.Padding
import SupplyGraph.Vocabulary.Types

/-!
Labels of the closed vocabularies. Every value is found under its own label, so no two values of a
vocabulary have the same one; a text is read as a value if it is the label of the value up to blanks
at its ends.
-/

namespace SupplyGraph

/-- A vocabulary that lists all of its values, each of which is found under its label. -/
class LawfulLabelled (α : Type) [Labelled α] : Prop where
  mem_all (value : α) : value ∈ Labelled.all
  found : ∀ value ∈ (Labelled.all : List α),
    Labelled.ofLabel? (Labelled.label value) = some value

instance : LawfulLabelled EntityType where
  mem_all value := by cases value <;> decide
  found := by decide +kernel

instance : LawfulLabelled CommodityType where
  mem_all value := by cases value <;> decide
  found := by decide +kernel

instance : LawfulLabelled Relationship where
  mem_all value := by cases value <;> decide
  found := by decide +kernel

instance : LawfulLabelled TemplateKind where
  mem_all value := by cases value <;> decide
  found := by decide +kernel

section Labels

variable {α : Type} [Labelled α] [LawfulLabelled α]

theorem ofLabel?_label (value : α)
    : Labelled.ofLabel? (Labelled.label value) = some value :=
  LawfulLabelled.found value (LawfulLabelled.mem_all value)

/-- Values with the same label are equal. -/
theorem label_injective {left right : α} (h : Labelled.label left = Labelled.label right)
    : left = right := by
  have hfound := ofLabel?_label left
  rw [h, ofLabel?_label] at hfound
  exact (Option.some.inj hfound).symm

/-- A text is read as the value that has it as a label. -/
theorem label_of_parse?_eq_some {α : Type} [Labelled α] {text : String} {value : α}
    (h : Labelled.parse? text = some value)
    : Labelled.label value = Text.trim text := by
  rw [Labelled.parse?, Labelled.ofLabel?] at h
  have hfound := List.find?_some h
  exact beq_iff_eq.mp hfound

theorem Labelled.parse?_eq_some_iff {text : String} {value : α}
    : Labelled.parse? text = some value ↔ Labelled.label value = Text.trim text := by
  refine ⟨label_of_parse?_eq_some, fun h => ?_⟩
  rw [Labelled.parse?, ← h, ofLabel?_label]

/-- A text that is not read as a label is none, not even when it is trimmed. -/
theorem label_ne_of_parse?_eq_none {text : String}
    (h : (Labelled.parse? text : Option α) = none) (value : α)
    : Labelled.label value ≠ Text.trim text := by
  intro hlabel
  rw [Labelled.parse?_eq_some_iff.mpr hlabel] at h
  cases h

end Labels

-----------------------------------------------------------------------------------------
-- Labels with blanks around them
-----------------------------------------------------------------------------------------

/-- A vocabulary whose labels have no blanks at their ends. -/
class TrimmedLabels (α : Type) [Labelled α] : Prop where
  trimmed : ∀ value ∈ (Labelled.all : List α),
    Text.trim (Labelled.label value) = Labelled.label value

instance : TrimmedLabels EntityType where
  trimmed := by decide +kernel

instance : TrimmedLabels CommodityType where
  trimmed := by decide +kernel

instance : TrimmedLabels Relationship where
  trimmed := by decide +kernel

/-- A text is read as a value exactly if it is the label of the value with blanks added at its
ends. -/
theorem Labelled.parse?_eq_some_iff_isPadded {α : Type} [Labelled α] [LawfulLabelled α]
    [TrimmedLabels α] {text : String} {value : α}
    : Labelled.parse? text = some value ↔ Text.IsPadded (Labelled.label value) text := by
  rw [Labelled.parse?_eq_some_iff]
  constructor
  · intro h
    rw [h]
    exact Text.isPadded_trim text
  · intro h
    rw [h.trim_eq, TrimmedLabels.trimmed value (LawfulLabelled.mem_all value)]

end SupplyGraph
