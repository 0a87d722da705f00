import Mathlib.Data.List.Forall2
import SupplyGraph.Proofs.Entry.Resolution
import SupplyGraph.Sorted.Set

/-!
Lists that are read item by item. All items must mean something; the results then stand in the order
of the items, and as a set they are the same in every order.
-/

namespace SupplyGraph

section Reading

variable {α β : Type} {read : α → Option β} {items others : List α} {results : List β}

/-- A list is read exactly when every item is, and its results are those of the items, by induction
on the items. -/
theorem mapM_eq_some_iff
    : items.mapM read = some results
      ↔ (∀ item ∈ items, (read item).isSome) ∧ items.filterMap read = results := by
  induction items generalizing results with
  | nil => simp
  | cons item rest ih =>
      simp only [List.mapM_cons, Option.bind_eq_bind, Option.bind_eq_some_iff, ih,
        List.forall_mem_cons, Option.pure_def, Option.some.injEq]
      cases hread : read item with
      | none => simp
      | some result => simp [hread]

/-- The results stand in the order of the items, by induction on the items. -/
theorem forall₂_of_mapM (h : items.mapM read = some results)
    : List.Forall₂ (fun item result => read item = some result) items results := by
  obtain ⟨htotal, rfl⟩ := mapM_eq_some_iff.mp h
  clear h
  induction items with
  | nil => exact .nil
  | cons item rest ih =>
      obtain ⟨hitem, hrest⟩ := List.forall_mem_cons.mp htotal
      obtain ⟨result, hresult⟩ := Option.isSome_iff_exists.mp hitem
      rw [List.filterMap_cons_some hresult]
      exact .cons hresult (ih hrest)

/-- Where every item has the result that stands in its place, these are the results of the list. -/
theorem mapM_of_forall₂
    (h : List.Forall₂ (fun item result => read item = some result) items results)
    : items.mapM read = some results := by
  induction h with
  | nil => rfl
  | cons hitem _ ih => simp [hitem, ih]

/-- Each result stands where its item stands. -/
theorem getElem?_of_mapM (h : items.mapM read = some results) (position : Nat)
    : results[position]? = items[position]?.bind read := by
  have hrow := forall₂_of_mapM h
  clear h
  induction hrow generalizing position with
  | nil => rfl
  | cons hfirst _ ih =>
      cases position with
      | zero => exact hfirst.symm
      | succ position => exact ih position

theorem exists_result_of_mapM (h : items.mapM read = some results) {item : α} (hm : item ∈ items)
    : ∃ result ∈ results, read item = some result := by
  obtain ⟨htotal, rfl⟩ := mapM_eq_some_iff.mp h
  obtain ⟨result, hresult⟩ := Option.isSome_iff_exists.mp (htotal item hm)
  exact ⟨result, List.mem_filterMap.mpr ⟨item, hm, hresult⟩, hresult⟩

/-- What is required of the results alone is required of all of them, by induction on the items. -/
theorem forall₂_and_right {relates : α → β → Prop} {holds : β → Prop}
    : List.Forall₂ (fun item result => relates item result ∧ holds result) items results
      ↔ List.Forall₂ relates items results ∧ ∀ result ∈ results, holds result := by
  induction items generalizing results with
  | nil => cases results <;> simp
  | cons item rest ih =>
      cases results with
      | nil => simp
      | cons result later =>
          simp only [List.forall₂_cons, ih, List.forall_mem_cons]
          exact and_and_and_comm

/-- Every item of a list is related to a result, by induction on the pairs. -/
theorem exists_right_of_forall₂ {relates : α → β → Prop} (h : List.Forall₂ relates items results)
    {item : α} (hm : item ∈ items)
    : ∃ result ∈ results, relates item result := by
  induction h with
  | nil => exact absurd hm List.not_mem_nil
  | cons hfirst _ ih =>
      rcases List.mem_cons.mp hm with rfl | hm
      · exact ⟨_, List.mem_cons_self, hfirst⟩
      · obtain ⟨result, hresult, hrelated⟩ := ih hm
        exact ⟨result, List.mem_cons_of_mem _ hresult, hrelated⟩

theorem exists_left_of_forall₂ {relates : α → β → Prop} (h : List.Forall₂ relates items results)
    {result : β} (hm : result ∈ results)
    : ∃ item ∈ items, relates item result :=
  exists_right_of_forall₂ (h.flip : List.Forall₂ (flip relates) results items) hm

/-- Lists whose items answer alike one by one have the same first answer. -/
theorem findSome?_eq_of_forall₂ {γ : Type} {ask : α → Option γ} {askOther : β → Option γ}
    (h : List.Forall₂ (fun item result => ask item = askOther result) items results)
    : items.findSome? ask = results.findSome? askOther := by
  induction h with
  | nil => rfl
  | cons hask _ ih => rw [List.findSome?_cons, List.findSome?_cons, hask, ih]

/-- Where at least one item is asked for, the items are read like those of any other list. -/
theorem readNonempty?_eq_some_iff
    : readNonempty? read items = some results ↔ items ≠ [] ∧ items.mapM read = some results := by
  rw [readNonempty?]
  cases items <;> simp

/-- A list in another order is read too, to the same results in another order. -/
theorem exists_mapM_of_perm (hp : items.Perm others) (h : items.mapM read = some results)
    : ∃ reordered, others.mapM read = some reordered ∧ results.Perm reordered := by
  obtain ⟨htotal, rfl⟩ := mapM_eq_some_iff.mp h
  exact ⟨others.filterMap read,
    mapM_eq_some_iff.mpr ⟨fun other hm => htotal other (hp.mem_iff.mpr hm), rfl⟩, hp.filterMap read⟩

/-- Items that are read to a part of their results have these parts as results. -/
theorem mapM_map {γ : Type} {part : β → γ} {readPart : α → Option γ}
    (h : items.mapM read = some results)
    (hr : ∀ item result, read item = some result → readPart item = some (part result))
    : items.mapM readPart = some (results.map part) := by
  obtain ⟨htotal, rfl⟩ := mapM_eq_some_iff.mp h
  have hpart : ∀ item ∈ items, readPart item = (read item).map part := by
    intro item hm
    obtain ⟨result, hresult⟩ := Option.isSome_iff_exists.mp (htotal item hm)
    rw [hr item result hresult, hresult, Option.map_some]
  refine mapM_eq_some_iff.mpr ⟨fun item hm => ?_, ?_⟩
  · rw [hpart item hm, Option.isSome_map]
    exact htotal item hm
  · rw [List.map_filterMap]
    exact List.filterMap_congr hpart

/-- Items that are selected as their results are kept have these results. -/
theorem mapM_filter {select : α → Bool} {keep : β → Bool} (h : items.mapM read = some results)
    (hs : ∀ item result, read item = some result → select item = keep result)
    : (items.filter select).mapM read = some (results.filter keep) := by
  obtain ⟨htotal, rfl⟩ := mapM_eq_some_iff.mp h
  refine mapM_eq_some_iff.mpr ⟨fun item hm => htotal item (List.mem_filter.mp hm).1, ?_⟩
  rw [List.filterMap_filter, List.filter_filterMap]
  refine congrArg (fun choose => items.filterMap choose) (funext (fun item => ?_))
  cases hread : read item with
  | none => simp
  | some result => simp [hs item result hread, Option.filter]

end Reading

-----------------------------------------------------------------------------------------
-- Sets of results
-----------------------------------------------------------------------------------------

namespace SortedSet

variable {α κ : Type} [Key κ] {read : α → Option κ} {items : List α} {set other : SortedSet κ}

/-- The set has the results of the items of a list as members, all of which have one. -/
structure IsImage (read : α → Option κ) (items : List α) (set : SortedSet κ) : Prop where
  total : ∀ item ∈ items, (read item).isSome
  members : ∀ value, value ∈ set ↔ ∃ item ∈ items, read item = some value

theorem isImage_ofList {results : List κ} (h : items.mapM read = some results)
    : IsImage read items (ofList results) := by
  obtain ⟨htotal, rfl⟩ := mapM_eq_some_iff.mp h
  exact ⟨htotal, fun value => by rw [mem_ofList, List.mem_filterMap]⟩

/-- Images of the parts of a list make up the image of the list, by induction on the parts. -/
theorem isImage_flatMap {γ : Type} {parts : List γ} {itemsOf : γ → List α}
    {sets : List (SortedSet κ)}
    (h : List.Forall₂ (fun part set => IsImage read (itemsOf part) set) parts sets)
    (hm : ∀ value, value ∈ set ↔ ∃ part ∈ sets, value ∈ part)
    : IsImage read (parts.flatMap itemsOf) set := by
  constructor
  · clear hm
    induction h with
    | nil => simp
    | cons hpart _ ih =>
        rw [List.flatMap_cons, List.forall_mem_append]
        exact ⟨hpart.total, ih⟩
  · intro value
    rw [hm]
    clear hm
    induction h with
    | nil => simp
    | cons hpart _ ih =>
        simp only [List.exists_mem_cons_iff, hpart.members, ih, List.flatMap_cons,
          List.mem_append, or_and_right, exists_or]

/-- The items leave no choice for the set. -/
theorem IsImage.unique (hs : IsImage read items set) (ho : IsImage read items other)
    : other = set :=
  ext (fun value => (ho.members value).trans (hs.members value).symm)

end SortedSet

end SupplyGraph
