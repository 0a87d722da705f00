import Mathlib.Data.List.TakeWhile
import SupplyGraph.Text.Blank

/-!
Padded texts. Trimming takes off whatever blanks were added at the ends of a text, so texts are
trimmed to the same text exactly when they are one text with blanks added at its ends.
-/

namespace SupplyGraph.Text

/-- The text is the core with blanks added at its ends. -/
def IsPadded (core text : String) : Prop :=
  ∃ front back : List Char,
    (∀ c ∈ front, isBlank c = true)
    ∧ (∀ c ∈ back, isBlank c = true)
    ∧ text.toList = front ++ core.toList ++ back

/-- The texts are one text, each with blanks of its own added at the ends. -/
def PaddedAlike (left right : String) : Prop := ∃ core, IsPadded core left ∧ IsPadded core right

/-- Blanks at the ends do not matter. Those at the back are reached by dropping from the front only
if nothing but blanks stands before them. -/
theorem trimChars_padded {front core back : List Char} (hf : ∀ c ∈ front, isBlank c = true)
    (hb : ∀ c ∈ back, isBlank c = true)
    : trimChars (front ++ core ++ back) = trimChars core := by
  have hback : back.dropWhile isBlank = [] := List.dropWhile_eq_nil_iff.mpr hb
  have hreverse : ∀ c ∈ back.reverse, isBlank c = true :=
    fun c hm => hb c (List.mem_reverse.mp hm)
  rw [trimChars, trimChars, List.append_assoc, List.dropWhile_append_of_pos hf,
    List.dropWhile_append]
  split
  next hcore => rw [hback, List.isEmpty_iff.mp hcore]
  next => rw [List.reverse_append, List.dropWhile_append_of_pos hreverse]

/-- What trimming takes off are blanks. -/
theorem exists_eq_append_trimChars (chars : List Char)
    : ∃ front back,
        (∀ c ∈ front, isBlank c = true)
        ∧ (∀ c ∈ back, isBlank c = true)
        ∧ chars = front ++ trimChars chars ++ back := by
  have hblank (chars : List Char) : ∀ c ∈ chars.takeWhile isBlank, isBlank c = true :=
    List.all_eq_true.mp List.all_takeWhile
  let ending := (chars.dropWhile isBlank).reverse
  refine ⟨chars.takeWhile isBlank, (ending.takeWhile isBlank).reverse, hblank chars, ?_, ?_⟩
  · exact fun c hm => hblank ending c (List.mem_reverse.mp hm)
  · have hending : ending.reverse = chars.dropWhile isBlank := List.reverse_reverse _
    rw [trimChars, List.append_assoc, ← List.reverse_append, List.takeWhile_append_dropWhile,
      hending, List.takeWhile_append_dropWhile]

theorem isPadded_refl (text : String)
    : IsPadded text text := ⟨[], [], by simp, by simp, by simp⟩

/-- Padding does not change what is left when the text is trimmed. -/
theorem IsPadded.trim_eq {core text : String} (h : IsPadded core text)
    : trim text = trim core := by
  obtain ⟨front, back, hf, hb, htext⟩ := h
  rw [trim, trim, htext, trimChars_padded hf hb]

/-- Every text is its trimmed text with padding around it. -/
theorem isPadded_trim (text : String)
    : IsPadded (trim text) text := by
  obtain ⟨front, back, hf, hb, htext⟩ := exists_eq_append_trimChars text.toList
  exact ⟨front, back, hf, hb, by rw [trim, String.toList_ofList, ← htext]⟩

/-- Two texts are padded alike exactly when they are the same once they are trimmed. -/
theorem paddedAlike_iff_trim_eq {left right : String}
    : PaddedAlike left right ↔ trim left = trim right := by
  constructor
  · intro h
    obtain ⟨core, hleft, hright⟩ := h
    rw [hleft.trim_eq, hright.trim_eq]
  · intro htrim
    exact ⟨trim left, isPadded_trim left, htrim ▸ isPadded_trim right⟩

end SupplyGraph.Text
