/-!
Keys of sorted collections. A key type has a decidable strict order in which two keys that
are not comparable are equal.
-/

namespace SupplyGraph

/-- A type whose values can label the entries of a sorted collection. -/
class Key (κ : Type) extends LT κ where
  decidableEq : DecidableEq κ
  decidableLT : DecidableLT κ
  lt_irrefl (key : κ) : ¬ key < key
  lt_trans {first second third : κ} : first < second → second < third → first < third
  eq_of_not_lt {left right : κ} : ¬ left < right → ¬ right < left → left = right

namespace Key

variable {κ : Type} [Key κ]

instance (priority := low) : DecidableEq κ := Key.decidableEq

instance (priority := low) : DecidableLT κ := Key.decidableLT

theorem ne_of_lt {left right : κ} (h : left < right)
    : left ≠ right := by
  intro heq
  subst heq
  exact Key.lt_irrefl left h

theorem lt_asymm {left right : κ} (h : left < right)
    : ¬ right < left :=
  fun hr => Key.lt_irrefl left (Key.lt_trans h hr)

/-- Of two keys one comes first, or they are the same. -/
theorem lt_or_eq_or_lt (left right : κ)
    : left < right ∨ left = right ∨ right < left := by
  by_cases hl : left < right
  · exact Or.inl hl
  · by_cases hr : right < left
    · exact Or.inr (Or.inr hr)
    · exact Or.inr (Or.inl (Key.eq_of_not_lt hl hr))

/-- A numbering without repetitions orders a type. -/
@[reducible]
def ofRank {α : Type} [DecidableEq α] (rank : α → Nat)
    (injective : ∀ left right, rank left = rank right → left = right)
    : Key α where
  lt left right := rank left < rank right
  decidableEq := inferInstance
  decidableLT left right := inferInstanceAs (Decidable (rank left < rank right))
  lt_irrefl key := Nat.lt_irrefl (rank key)
  lt_trans := Nat.lt_trans
  eq_of_not_lt hl hr :=
    injective _ _ (Nat.le_antisymm (Nat.le_of_not_lt hr) (Nat.le_of_not_lt hl))

end Key

/-- Texts are ordered by code points, which is also the order of their UTF-8 bytes. -/
instance : Key String where
  decidableEq := inferInstance
  decidableLT := inferInstance
  lt_irrefl := String.lt_irrefl
  lt_trans := String.lt_trans
  eq_of_not_lt hl hr := String.le_antisymm (String.not_lt.mp hr) (String.not_lt.mp hl)

end SupplyGraph
