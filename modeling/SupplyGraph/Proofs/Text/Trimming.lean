import Mathlib.Data.List.DropRight
import SupplyGraph.Text.Blank

/-!
Trimmed texts. What trimming leaves of a text has no blank at either end.
-/

namespace SupplyGraph.Text

/-- The text is not empty and has no blank at either end. -/
structure IsTrimmed (text : String) : Prop where
  nonempty : text ≠ ""
  first : ∀ c, text.toList.head? = some c → isBlank c = false
  last : ∀ c, text.toList.getLast? = some c → isBlank c = false

/-- The first character that is left is the first one that is no blank, as only blanks at the back
are dropped behind it. -/
theorem isBlank_of_head?_trimChars {chars : List Char} {c : Char}
    (h : (trimChars chars).head? = some c)
    : isBlank c = false := by
  obtain ⟨rest, hrest⟩ := List.head?_eq_some_iff.mp h
  have hprefix : trimChars chars <+: chars.dropWhile isBlank :=
    List.rdropWhile_prefix isBlank (chars.dropWhile isBlank)
  obtain ⟨back, hback⟩ := hprefix
  rw [hrest] at hback
  have hhead := List.head?_dropWhile_not isBlank chars
  rwa [← hback] at hhead

/-- No blank is left at the end of trimmed characters. -/
theorem isBlank_of_getLast?_trimChars {chars : List Char} {c : Char}
    (h : (trimChars chars).getLast? = some c)
    : isBlank c = false := by
  rw [trimChars, List.getLast?_reverse] at h
  have hhead := List.head?_dropWhile_not isBlank (chars.dropWhile isBlank).reverse
  rwa [h] at hhead

/-- A text that is not blank has no blanks at its ends once it is trimmed. -/
theorem isTrimmed_trim {text : String} (h : ¬ (trim text).isEmpty)
    : IsTrimmed (trim text) where
  nonempty hempty := h (by rw [hempty]; rfl)
  first c hc := isBlank_of_head?_trimChars (by rwa [trim, String.toList_ofList] at hc)
  last c hc := isBlank_of_getLast?_trimChars (by rwa [trim, String.toList_ofList] at hc)

end SupplyGraph.Text
