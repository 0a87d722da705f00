import SupplyGraph.Proofs.Json.Tokens

/-!
Texts of numbers. Apart from digits, a number is written with signs, a point and the mark of an
exponent only.
-/

namespace SupplyGraph.Json

-----------------------------------------------------------------------------------------
-- Characters
-----------------------------------------------------------------------------------------

/-- A character that numbers are written with. -/
def isNumeric (c : Char) : Bool := isDigit c || c = '-' || c = '+' || c = '.' || c = 'e'

/-- The digits of a natural number are read on as part of the number. -/
theorem forall_renderNat_isNumeric (value : Nat)
    : ∀ c ∈ renderNat value, isNumeric c := by
  intro c hm
  simp [isNumeric, isDigit_of_mem_renderNat hm]

theorem forall_renderInt_isNumeric (value : Int)
    : ∀ c ∈ renderInt value, isNumeric c := by
  rw [renderInt]
  split
  · exact List.forall_mem_cons.mpr ⟨rfl, forall_renderNat_isNumeric _⟩
  · exact forall_renderNat_isNumeric _

/-- The letter, the sign and the digits of an exponent are read on as well. -/
theorem forall_renderExponent_isNumeric (value : Int)
    : ∀ c ∈ renderExponent value, isNumeric c := by
  rw [renderExponent]
  split
  · exact List.forall_mem_cons.mpr ⟨rfl, forall_renderInt_isNumeric _⟩
  · exact List.forall_mem_cons.mpr
      ⟨rfl, List.forall_mem_cons.mpr ⟨rfl, forall_renderInt_isNumeric _⟩⟩

/-- Wherever the point falls among the digits, no character ends the number. -/
theorem forall_layOut_isNumeric {digits : List Char} (h : ∀ c ∈ digits, isNumeric c)
    (exponent : Int)
    : ∀ c ∈ layOut digits exponent, isNumeric c := by
  have hzeros (count : Nat) : ∀ c ∈ List.replicate count '0', isNumeric c := by
    intro c hm
    rw [List.eq_of_mem_replicate hm]
    rfl
  have htake (count : Nat) : ∀ c ∈ digits.take count, isNumeric c :=
    fun c hm => h c (List.mem_of_mem_take hm)
  have hdrop (count : Nat) : ∀ c ∈ digits.drop count, isNumeric c :=
    fun c hm => h c (List.mem_of_mem_drop hm)
  have hexponent := forall_renderExponent_isNumeric
  simp only [layOut]
  split
  · simp only [List.forall_mem_append, List.forall_mem_cons]
    exact ⟨⟨h, hzeros _⟩, rfl, rfl, by simp⟩
  · split
    · simp only [List.forall_mem_append, List.forall_mem_cons]
      exact ⟨htake _, rfl, hdrop _⟩
    · split
      · simp only [List.forall_mem_append, List.forall_mem_cons]
        exact ⟨⟨rfl, rfl, hzeros _⟩, h⟩
      · split
        · exact List.forall_mem_cons.mpr ⟨h _ List.mem_cons_self, hexponent _⟩
        · simp only [List.forall_mem_append, List.forall_mem_cons]
          exact ⟨⟨htake _, rfl, hdrop _⟩, hexponent _⟩

/-- The text of a number is read as one token, reals included. -/
theorem Number.forall_render_isNumeric (number : Number)
    : ∀ c ∈ number.render, isNumeric c := by
  cases number with
  | integer value => exact forall_renderInt_isNumeric value
  | real value =>
      have hsize
          : ∀ c ∈ (if value.isZero then ['0', '.', '0']
              else layOut (renderNat value.shortest.digits) value.shortest.exponent),
              isNumeric c := by
        split
        · simp [isNumeric, isDigit]
        · exact forall_layOut_isNumeric (forall_renderNat_isNumeric _) _
      rw [Number.render, renderReal]
      split
      · exact List.forall_mem_cons.mpr ⟨rfl, hsize⟩
      · exact hsize

end SupplyGraph.Json
