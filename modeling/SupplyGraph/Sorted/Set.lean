import SupplyGraph.Sorted.Key

/-!
Finite sets kept as ascending lists. Two sets with the same members are equal, and every operation
is described by the members of its result.
-/

namespace SupplyGraph

/-- Puts a value where the order wants it, unless it is there already. -/
def insertAscending {κ : Type} [Key κ] (value : κ) : List κ → List κ
  | [] => [value]
  | first :: rest =>
      if value < first then value :: first :: rest
      else if value = first then first :: rest
      else first :: insertAscending value rest

section Ascending

variable {κ : Type} [Key κ]

theorem mem_insertAscending {value query : κ} {values : List κ}
    : query ∈ insertAscending value values ↔ query = value ∨ query ∈ values := by
  induction values with
  | nil => simp [insertAscending]
  | cons first rest ih =>
      simp only [insertAscending]
      split
      · simp
      · split
        next heq => simp [heq]
        next => simp only [List.mem_cons, ih, or_left_comm]

theorem pairwise_insertAscending {value : κ} {values : List κ} (h : values.Pairwise (· < ·))
    : (insertAscending value values).Pairwise (· < ·) := by
  induction values with
  | nil => simp [insertAscending]
  | cons first rest ih =>
      obtain ⟨hlt, hrest⟩ := List.pairwise_cons.mp h
      simp only [insertAscending]
      split
      next hv =>
        refine List.pairwise_cons.mpr ⟨?_, h⟩
        intro other ho
        rcases List.mem_cons.mp ho with rfl | ho
        · exact hv
        · exact Key.lt_trans hv (hlt other ho)
      next hv =>
        split
        · exact h
        next hne =>
          refine List.pairwise_cons.mpr ⟨?_, ih hrest⟩
          intro other ho
          rcases mem_insertAscending.mp ho with rfl | ho
          · rcases Key.lt_or_eq_or_lt other first with hl | he | hg
            · exact absurd hl hv
            · exact absurd he hne
            · exact hg
          · exact hlt other ho

theorem pairwise_ext {left right : List κ} (hl : left.Pairwise (· < ·))
    (hr : right.Pairwise (· < ·)) (h : ∀ value, value ∈ left ↔ value ∈ right)
    : left = right := by
  induction left generalizing right with
  | nil =>
      cases right with
      | nil => rfl
      | cons other tail => exact absurd ((h other).mpr (by simp)) (by simp)
  | cons first rest ih =>
      cases right with
      | nil => exact absurd ((h first).mp (by simp)) (by simp)
      | cons other tail =>
          obtain ⟨hfirst, hrest⟩ := List.pairwise_cons.mp hl
          obtain ⟨hother, htail⟩ := List.pairwise_cons.mp hr
          have heq : first = other := by
            rcases List.mem_cons.mp ((h first).mp (by simp)) with heq | hm
            · exact heq
            · rcases List.mem_cons.mp ((h other).mpr (by simp)) with heq | hm'
              · exact heq.symm
              · exact absurd (hother first hm) (Key.lt_asymm (hfirst other hm'))
          subst heq
          have htails : ∀ value, value ∈ rest ↔ value ∈ tail := by
            intro value
            constructor
            · intro hv
              rcases List.mem_cons.mp ((h value).mp (List.mem_cons_of_mem _ hv)) with rfl | hv'
              · exact absurd (hfirst value hv) (Key.lt_irrefl value)
              · exact hv'
            · intro hv
              rcases List.mem_cons.mp ((h value).mpr (List.mem_cons_of_mem _ hv)) with rfl | hv'
              · exact absurd (hother value hv) (Key.lt_irrefl value)
              · exact hv'
          rw [ih hrest htail htails]

end Ascending

/-- A finite set whose members stand in ascending order. -/
structure SortedSet (κ : Type) [Key κ] where
  toList : List κ
  ascending : toList.Pairwise (· < ·)

namespace SortedSet

variable {κ : Type} [Key κ]

instance : DecidableEq (SortedSet κ) := fun left right =>
  decidable_of_iff (left.toList = right.toList)
    ⟨fun h => by cases left; cases right; cases h; rfl, fun h => by rw [h]⟩

instance [Repr κ] : Repr (SortedSet κ) where
  reprPrec set precedence := reprPrec set.toList precedence

theorem pairwise_nil : ([] : List κ).Pairwise (· < ·) := List.Pairwise.nil

def empty : SortedSet κ := ⟨[], pairwise_nil⟩

instance : EmptyCollection (SortedSet κ) := ⟨empty⟩

instance : Inhabited (SortedSet κ) := ⟨empty⟩

instance : Membership κ (SortedSet κ) := ⟨fun set value => value ∈ set.toList⟩

instance (value : κ) (set : SortedSet κ) : Decidable (value ∈ set) :=
  inferInstanceAs (Decidable (value ∈ set.toList))

def isEmpty (set : SortedSet κ) : Bool := set.toList.isEmpty

def insert (set : SortedSet κ) (value : κ) : SortedSet κ :=
  ⟨insertAscending value set.toList, pairwise_insertAscending set.ascending⟩

def ofList (values : List κ) : SortedSet κ := values.foldl insert empty

def union (base extra : SortedSet κ) : SortedSet κ := extra.toList.foldl insert base

instance : Union (SortedSet κ) := ⟨union⟩

theorem mem_toList (set : SortedSet κ) (value : κ)
    : value ∈ set.toList ↔ value ∈ set := Iff.rfl

/-- Two sets with the same members are the same set. -/
@[ext]
theorem ext {left right : SortedSet κ} (h : ∀ value, value ∈ left ↔ value ∈ right)
    : left = right := by
  have hlists : left.toList = right.toList := pairwise_ext left.ascending right.ascending h
  cases left
  cases right
  cases hlists
  rfl

@[simp]
theorem not_mem_empty (value : κ)
    : value ∉ (empty : SortedSet κ) := List.not_mem_nil

@[simp]
theorem mem_insert (set : SortedSet κ) (value query : κ)
    : query ∈ set.insert value ↔ query = value ∨ query ∈ set := mem_insertAscending

/-- Members after inserting a list of values, by induction on the list. -/
theorem mem_foldl_insert (set : SortedSet κ) (values : List κ) (query : κ)
    : query ∈ values.foldl insert set ↔ query ∈ set ∨ query ∈ values := by
  induction values generalizing set with
  | nil => simp
  | cons value rest ih =>
      rw [List.foldl_cons, ih, mem_insert, List.mem_cons, or_assoc, or_left_comm]

@[simp]
theorem mem_ofList (values : List κ) (query : κ)
    : query ∈ ofList values ↔ query ∈ values := by
  simp [ofList, mem_foldl_insert]

@[simp]
theorem mem_union (base extra : SortedSet κ) (query : κ)
    : query ∈ base ∪ extra ↔ query ∈ base ∨ query ∈ extra :=
  mem_foldl_insert base extra.toList query

end SortedSet

end SupplyGraph
