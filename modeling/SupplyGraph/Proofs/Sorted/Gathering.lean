import Mathlib.Data.List.Induction
import SupplyGraph.Provision

/-!
Maps that are filled pair by pair, keeping the first value of a key or uniting all its sets.
Filling from two lists in turn comes to the same as joining the maps of the two lists.
-/

namespace SupplyGraph

-----------------------------------------------------------------------------------------
-- Lists of pairs in which every key has one value
-----------------------------------------------------------------------------------------

/-- No key has two different values in the list. -/
def SingleValued {κ α : Type} (pairs : List (κ × α)) : Prop :=
  ∀ key left right, (key, left) ∈ pairs → (key, right) ∈ pairs → left = right

section SingleValued

variable {κ α : Type}

theorem singleValued_nil : SingleValued ([] : List (κ × α)) :=
  fun _ _ _ h _ => absurd h List.not_mem_nil

/-- A list stays single-valued when pairs are taken out of it. -/
theorem SingleValued.of_subset {pairs more : List (κ × α)} (h : SingleValued more)
    (hs : ∀ pair ∈ pairs, pair ∈ more)
    : SingleValued pairs :=
  fun key left right hl hr => h key left right (hs _ hl) (hs _ hr)

/-- Two lists together are single-valued when each is and no key gets two values across them. -/
theorem singleValued_append_iff {front back : List (κ × α)}
    : SingleValued (front ++ back)
      ↔ SingleValued front
        ∧ SingleValued back
        ∧ ∀ key left right, (key, left) ∈ front → (key, right) ∈ back → left = right := by
  constructor
  · intro h
    refine ⟨h.of_subset (fun _ hm => List.mem_append_left _ hm),
      h.of_subset (fun _ hm => List.mem_append_right _ hm), ?_⟩
    intro key left right hl hr
    exact h key left right (List.mem_append_left _ hl) (List.mem_append_right _ hr)
  · intro hi key left right hl hr
    obtain ⟨hf, hb, hc⟩ := hi
    rcases List.mem_append.mp hl with hl | hl
    · rcases List.mem_append.mp hr with hr | hr
      · exact hf key left right hl hr
      · exact hc key left right hl hr
    · rcases List.mem_append.mp hr with hr | hr
      · exact (hc key right left hr hl).symm
      · exact hb key left right hl hr

/-- One pair more keeps a list single-valued when its key has no other value before. -/
theorem singleValued_concat_iff {pairs : List (κ × α)} {pair : κ × α} (h : SingleValued pairs)
    : SingleValued (pairs ++ [pair]) ↔ ∀ value, (pair.1, value) ∈ pairs → value = pair.2 := by
  rw [singleValued_append_iff]
  constructor
  · intro hi value hm
    obtain ⟨_, _, hc⟩ := hi
    exact hc pair.1 value pair.2 hm (by simp)
  · intro hv
    refine ⟨h, ?_, ?_⟩
    · intro key left right hl hr
      rw [List.mem_singleton] at hl hr
      exact congrArg Prod.snd (hl.trans hr.symm)
    · intro key left right hl hr
      obtain rfl := List.mem_singleton.mp hr
      exact hv left hl

end SingleValued

-----------------------------------------------------------------------------------------
-- The first pair with a key
-----------------------------------------------------------------------------------------

section Lookup

variable {κ α : Type} [DecidableEq κ]

/-- A key is looked up in the second list only if the first one does not have it. -/
theorem lookupEntry_append (key : κ) (front back : List (κ × α))
    : lookupEntry key (front ++ back) = (lookupEntry key front).or (lookupEntry key back) := by
  induction front with
  | nil => simp [lookupEntry]
  | cons pair rest ih =>
      by_cases hkey : key = pair.1
      · simp [lookupEntry, hkey]
      · simp [lookupEntry, hkey, ih]

/-- What is found under a key stands in the list with it. -/
theorem mem_of_lookupEntry {key : κ} {value : α} {pairs : List (κ × α)}
    (h : lookupEntry key pairs = some value)
    : (key, value) ∈ pairs := by
  induction pairs with
  | nil => simp [lookupEntry] at h
  | cons pair rest ih =>
      by_cases hkey : key = pair.1
      · subst hkey
        have hv : pair.2 = value := by simpa [lookupEntry] using h
        subst hv
        exact List.mem_cons_self
      · exact List.mem_cons_of_mem _ (ih (by simpa [lookupEntry, hkey] using h))

/-- A key that stands in the list is found, if perhaps with another value. -/
theorem lookupEntry_isSome_of_mem {key : κ} {value : α} {pairs : List (κ × α)}
    (h : (key, value) ∈ pairs)
    : ∃ first, lookupEntry key pairs = some first := by
  induction pairs with
  | nil => exact absurd h List.not_mem_nil
  | cons pair rest ih =>
      by_cases hkey : key = pair.1
      · exact ⟨pair.2, by simp [lookupEntry, hkey]⟩
      · rcases List.mem_cons.mp h with he | hm
        · exact absurd (congrArg Prod.fst he) hkey
        · simpa [lookupEntry, hkey] using ih hm

end Lookup

@[simp]
theorem SortedSet.not_mem_emptyCollection {κ : Type} [Key κ] (value : κ)
    : value ∉ (∅ : SortedSet κ) := SortedSet.not_mem_empty value

namespace SortedMap

-----------------------------------------------------------------------------------------
-- Maps that keep the first value of every key
-----------------------------------------------------------------------------------------

section Firsts

variable {κ α : Type} [Key κ]

@[simp]
theorem find?_emptyCollection (key : κ)
    : (∅ : SortedMap κ α).find? key = none := rfl

/-- A union has the keys of both maps and no others. -/
@[simp]
theorem mem_keys_unionWith (combine : α → α → α) (base extra : SortedMap κ α) (key : κ)
    : key ∈ (unionWith combine base extra).keys ↔ key ∈ base.keys ∨ key ∈ extra.keys := by
  rw [mem_keys, mem_keys, mem_keys, find?_unionWith]
  cases extra.find? key <;> simp

/-- Every key with the first value that it has in a list. -/
def firsts (pairs : List (κ × α)) : SortedMap κ α :=
  pairs.foldl (fun map pair => map.insertNew pair.1 pair.2) ∅

/-- What a map holds after new keys are inserted, by induction on the pairs. -/
theorem find?_foldl_insertNew (base : SortedMap κ α) (pairs : List (κ × α)) (key : κ)
    : (pairs.foldl (fun map pair => map.insertNew pair.1 pair.2) base).find? key
      = (base.find? key).or (lookupEntry key pairs) := by
  induction pairs generalizing base with
  | nil => simp [lookupEntry]
  | cons pair rest ih =>
      rw [List.foldl_cons, ih, find?_insertNew]
      by_cases hkey : key = pair.1
      · subst hkey
        cases hb : base.find? pair.1 <;> simp [lookupEntry]
      · simp [lookupEntry, hkey]

/-- The map keeps the first value of every key. -/
theorem find?_firsts (pairs : List (κ × α)) (key : κ)
    : (firsts pairs).find? key = lookupEntry key pairs := by
  simp [firsts, find?_foldl_insertNew]

/-- A pair at the end of the list matters only if its key is new. -/
theorem firsts_concat (pairs : List (κ × α)) (key : κ) (value : α)
    : firsts (pairs ++ [(key, value)]) = (firsts pairs).insertNew key value := by
  simp [firsts]

/-- Filling from two lists in turn comes to the union of their maps, in which the first one
prevails. -/
theorem union_firsts (front back : List (κ × α))
    : union (firsts front) (firsts back) = firsts (front ++ back) := by
  ext key : 1
  simp only [find?_union, find?_firsts, lookupEntry_append]

/-- Where keys have one value each, the map holds exactly the pairs of the list. -/
theorem find?_firsts_eq_some_iff {pairs : List (κ × α)} (h : SingleValued pairs) (key : κ)
    (value : α)
    : (firsts pairs).find? key = some value ↔ (key, value) ∈ pairs := by
  rw [find?_firsts]
  constructor
  · exact mem_of_lookupEntry
  · intro hm
    obtain ⟨first, hf⟩ := lookupEntry_isSome_of_mem hm
    rw [hf, h key first value (mem_of_lookupEntry hf) hm]

/-- Where keys have one value each, only the members of the list matter. -/
theorem firsts_congr {left right : List (κ × α)} (hl : SingleValued left)
    (h : ∀ pair, pair ∈ left ↔ pair ∈ right)
    : firsts left = firsts right := by
  have hr : SingleValued right := hl.of_subset (fun pair hm => (h pair).mpr hm)
  ext key : 1
  apply Option.ext
  intro value
  rw [find?_firsts_eq_some_iff hl, find?_firsts_eq_some_iff hr, h]

/-- A value that a key may have already is inserted like a new one. -/
theorem insert_firsts {pairs : List (κ × α)} {key : κ} {value : α}
    (h : SingleValued (pairs ++ [(key, value)]))
    : (firsts pairs).insert key value = firsts (pairs ++ [(key, value)]) := by
  rw [firsts_concat]
  ext query : 1
  rw [find?_insert, find?_insertNew]
  -- A key that is there has this value already, so that it makes no difference which one stays.
  cases hf : (firsts pairs).find? key with
  | none => simp
  | some present =>
      have hm : (key, present) ∈ pairs := mem_of_lookupEntry (by rwa [← find?_firsts])
      simp [h key present value (List.mem_append_left _ hm) (by simp)]

/-- The map has the keys of the list and no others. -/
theorem mem_keys_firsts (pairs : List (κ × α)) (key : κ)
    : key ∈ (firsts pairs).keys ↔ ∃ value, (key, value) ∈ pairs := by
  rw [mem_keys, find?_firsts]
  constructor
  · intro h
    obtain ⟨value, hv⟩ := Option.isSome_iff_exists.mp h
    exact ⟨value, mem_of_lookupEntry hv⟩
  · intro hi
    obtain ⟨value, hm⟩ := hi
    obtain ⟨first, hf⟩ := lookupEntry_isSome_of_mem hm
    simp [hf]

end Firsts

-----------------------------------------------------------------------------------------
-- Maps that unite the sets of every key
-----------------------------------------------------------------------------------------

section Sets

variable {κ α : Type} [Key κ] [Key α]

/-- The set of a key; a key without a set has the empty one. -/
def setAt (map : SortedMap κ (SortedSet α)) (key : κ) : SortedSet α := (map.find? key).getD ∅

/-- Two maps to sets are equal when they have the same keys and the same members under each. -/
theorem ext_sets {left right : SortedMap κ (SortedSet α)}
    (hk : ∀ key, key ∈ left.keys ↔ key ∈ right.keys)
    (hm : ∀ key value, value ∈ left.setAt key ↔ value ∈ right.setAt key)
    : left = right := by
  ext key : 1
  have hkey := hk key
  have hset : left.setAt key = right.setAt key := SortedSet.ext (hm key)
  rw [mem_keys, mem_keys] at hkey
  cases hl : left.find? key <;> cases hr : right.find? key <;>
    simp_all [setAt]

/-- Only the set of the key grows; a key that was missing gets the new values. -/
theorem find?_addAll (map : SortedMap κ (SortedSet α)) (key query : κ) (values : SortedSet α)
    : (map.addAll key values).find? query
      = if query = key then some (map.setAt key ∪ values) else map.find? query :=
  find?_update map key query _

@[simp]
theorem mem_keys_addAll (map : SortedMap κ (SortedSet α)) (key query : κ) (values : SortedSet α)
    : query ∈ (map.addAll key values).keys ↔ query ∈ map.keys ∨ query = key := by
  rw [mem_keys, mem_keys, find?_addAll]
  by_cases hq : query = key <;> simp [hq]

@[simp]
theorem mem_setAt_addAll (map : SortedMap κ (SortedSet α)) (key query : κ)
    (values : SortedSet α) (value : α)
    : value ∈ (map.addAll key values).setAt query
      ↔ value ∈ map.setAt query ∨ query = key ∧ value ∈ values := by
  rw [setAt, find?_addAll]
  by_cases hq : query = key
  · subst hq
    simp
  · simp [hq, setAt]

/-- Every key with the union of the sets that it has in a list. -/
def gather (pairs : List (κ × SortedSet α)) : SortedMap κ (SortedSet α) :=
  pairs.foldl (fun map pair => map.addAll pair.1 pair.2) ∅

/-- A pair at the end of the list adds its values to the set of its key. -/
theorem gather_concat (pairs : List (κ × SortedSet α)) (key : κ) (values : SortedSet α)
    : gather (pairs ++ [(key, values)]) = (gather pairs).addAll key values := by
  simp [gather]

@[simp]
theorem mem_keys_gather (pairs : List (κ × SortedSet α)) (key : κ)
    : key ∈ (gather pairs).keys ↔ ∃ values, (key, values) ∈ pairs := by
  induction pairs using List.reverseRecOn with
  | nil => simp [gather, mem_keys]
  | append_singleton pairs pair ih =>
      rw [gather_concat, mem_keys_addAll, ih]
      simp [List.mem_append, Prod.ext_iff, exists_or]

@[simp]
theorem mem_setAt_gather (pairs : List (κ × SortedSet α)) (key : κ) (value : α)
    : value ∈ (gather pairs).setAt key ↔ ∃ values, (key, values) ∈ pairs ∧ value ∈ values := by
  induction pairs using List.reverseRecOn with
  | nil => simp [gather, setAt]
  | append_singleton pairs pair ih =>
      rw [gather_concat, mem_setAt_addAll, ih]
      simp [List.mem_append, Prod.ext_iff, or_and_right, exists_or]

@[simp]
theorem mem_setAt_unionWith (base extra : SortedMap κ (SortedSet α)) (key : κ) (value : α)
    : value ∈ (unionWith (· ∪ ·) base extra).setAt key
      ↔ value ∈ base.setAt key ∨ value ∈ extra.setAt key := by
  rw [setAt, find?_unionWith]
  cases he : extra.find? key <;> cases hb : base.find? key <;> simp [setAt, he, hb]

/-- Gathering from two lists in turn comes to the union of their maps, key by key. -/
theorem unionWith_gather (front back : List (κ × SortedSet α))
    : unionWith (· ∪ ·) (gather front) (gather back) = gather (front ++ back) := by
  apply ext_sets
  · intro key
    simp [List.mem_append, exists_or]
  · intro key value
    simp [List.mem_append, or_and_right, exists_or]

/-- Only the members of the list matter for the sets that it gives. -/
theorem gather_congr {left right : List (κ × SortedSet α)}
    (h : ∀ pair, pair ∈ left ↔ pair ∈ right)
    : gather left = gather right := by
  apply ext_sets
  · intro key
    simp [h]
  · intro key value
    simp [h]

end Sets

end SortedMap

end SupplyGraph
