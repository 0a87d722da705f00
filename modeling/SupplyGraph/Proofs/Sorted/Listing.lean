import Mathlib.Data.List.Induction
import SupplyGraph.Sorted.Map

/-!
Maps filled from lists. The last value of a key stays; where every key stands once, the entries of
the map are the pairs of the list in another order.
-/

namespace SupplyGraph

variable {κ α : Type}

/-- Two arrangements of the same pairs with the same row of distinct keys are equal. -/
theorem eq_of_perm_of_keys {left right : List (κ × α)} (hp : left.Perm right)
    (hkeys : left.map Prod.fst = right.map Prod.fst) (hd : (left.map Prod.fst).Nodup)
    : left = right := by
  induction left generalizing right with
  | nil => exact (List.nil_perm.mp hp).symm
  | cons pair rest ih =>
      cases right with
      | nil => exact absurd hp.length_eq (by simp)
      | cons other tail =>
          obtain ⟨hkey, htail⟩ := List.cons.inj hkeys
          have hsame : pair = other := by
            rcases List.mem_cons.mp (hp.subset List.mem_cons_self) with heq | hm
            · exact heq
            · have hkey : pair.1 ∈ rest.map Prod.fst := by
                rw [htail]
                exact List.mem_map_of_mem hm
              exact absurd hkey (List.nodup_cons.mp hd).1
          subst hsame
          rw [ih (List.perm_cons _ |>.mp hp) htail (List.nodup_cons.mp hd).2]

variable [Key κ]

/-- An entry with a new key is added to the entries. -/
theorem perm_updateEntry {key : κ} {change : Option α → α} {entries : List (κ × α)}
    (h : key ∉ entries.map Prod.fst)
    : (updateEntry key change entries).Perm ((key, change none) :: entries) := by
  induction entries with
  | nil => exact .rfl
  | cons first rest ih =>
      rw [List.map_cons, List.mem_cons, not_or] at h
      obtain ⟨hfirst, hrest⟩ := h
      rw [updateEntry]
      split
      · exact .rfl
      · exact ((ih hrest).cons first).trans (.swap _ _ _)

/-- The entry of a key is changed where it stands. -/
theorem exists_updateEntry_eq {key : κ} {present : α} {entries : List (κ × α)}
    (h : Ascending entries) (hp : lookupEntry key entries = some present)
    (change : Option α → α)
    : ∃ front back,
        entries = front ++ (key, present) :: back
        ∧ updateEntry key change entries = front ++ (key, change (some present)) :: back := by
  induction entries with
  | nil => cases hp
  | cons first rest ih =>
      obtain ⟨other, value⟩ := first
      obtain ⟨hlt, hrest⟩ := ascending_cons.mp h
      by_cases hkey : key = other
      · subst hkey
        rw [lookupEntry, if_pos rfl] at hp
        obtain rfl := Option.some.inj hp
        exact ⟨[], rest, rfl, by simp [updateEntry, Key.lt_irrefl]⟩
      · rw [lookupEntry, if_neg hkey] at hp
        have hnot : ¬ key < other := by
          intro hbefore
          rw [lookupEntry_eq_none_of_forall_lt
            (fun entry hm => Key.lt_trans hbefore (hlt entry hm))]
            at hp
          cases hp
        obtain ⟨front, back, heq, hchange⟩ := ih hrest hp
        refine ⟨(other, value) :: front, back, by rw [heq, List.cons_append], ?_⟩
        rw [updateEntry, if_neg hnot, if_neg hkey, hchange, List.cons_append]

namespace SortedMap

theorem ofList_concat (pairs : List (κ × α)) (pair : κ × α)
    : ofList (pairs ++ [pair]) = (ofList pairs).insert pair.1 pair.2 := by
  rw [ofList, List.foldl_append]
  rfl

/-- Every entry comes from the list. -/
theorem mem_of_mem_ofList {pairs : List (κ × α)} {entry : κ × α}
    (h : entry ∈ (ofList pairs).entries)
    : entry ∈ pairs := by
  induction pairs using List.reverseRecOn with
  | nil => exact absurd h List.not_mem_nil
  | append_singleton pairs pair ih =>
      rw [ofList_concat, ← find?_eq_some_iff, find?_insert] at h
      by_cases hkey : entry.1 = pair.1
      · rw [if_pos hkey] at h
        have hentry : pair = entry := Prod.ext hkey.symm (Option.some.inj h)
        rw [hentry]
        exact List.mem_append_right _ List.mem_cons_self
      · rw [if_neg hkey, find?_eq_some_iff] at h
        exact List.mem_append_left _ (ih h)

/-- Where every key stands once, the entries are the pairs of the list. -/
theorem perm_ofList {pairs : List (κ × α)} (h : (pairs.map Prod.fst).Nodup)
    : (ofList pairs).entries.Perm pairs := by
  induction pairs using List.reverseRecOn with
  | nil => exact .rfl
  | append_singleton pairs pair ih =>
      have hback := List.perm_append_singleton pair pairs
      obtain ⟨hnew, hpairs⟩ := List.nodup_cons.mp ((hback.map Prod.fst).nodup_iff.mp h)
      have hentries := ih hpairs
      have hkey : pair.1 ∉ (ofList pairs).entries.map Prod.fst :=
        fun hm => hnew ((hentries.map Prod.fst).subset hm)
      rw [ofList_concat]
      exact ((perm_updateEntry hkey).trans (hentries.cons pair)).trans hback.symm

theorem nodup_keys (map : SortedMap κ α)
    : (map.entries.map Prod.fst).Nodup :=
  map.ascending.imp Key.ne_of_lt

/-- The entries of a map have only one order. -/
theorem ext_of_perm {left right : SortedMap κ α} (h : left.entries.Perm right.entries)
    : left = right := by
  ext key : 1
  apply Option.ext
  intro value
  rw [find?_eq_some_iff, find?_eq_some_iff, h.mem_iff]

/-- Where every key stands once, only the pairs count, and not their order. -/
theorem ofList_eq_iff_perm {left right : List (κ × α)} (hl : (left.map Prod.fst).Nodup)
    (hr : (right.map Prod.fst).Nodup)
    : ofList left = ofList right ↔ left.Perm right := by
  constructor
  · intro h
    have hleft := perm_ofList hl
    rw [h] at hleft
    exact hleft.symm.trans (perm_ofList hr)
  · intro h
    exact ext_of_perm (((perm_ofList hl).trans h).trans (perm_ofList hr).symm)

/-- A map is filled from its own entries. -/
theorem ofList_entries (map : SortedMap κ α)
    : ofList map.entries = map :=
  ext_of_perm (perm_ofList map.nodup_keys)

end SortedMap

end SupplyGraph
