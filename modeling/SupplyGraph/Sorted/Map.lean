import SupplyGraph.Sorted.Key

/-!
Finite maps kept in ascending key order. Two maps with the same look-ups are equal, and every
operation is described by the look-ups of its result.
-/

namespace SupplyGraph

/-- The value at the first entry with the given key. -/
def lookupEntry {κ α : Type} [DecidableEq κ] (key : κ) : List (κ × α) → Option α
  | [] => none
  | (other, value) :: rest => if key = other then some value else lookupEntry key rest

/-- Changes the value at a key, or puts a new entry where the order wants it. -/
def updateEntry {κ α : Type} [Key κ] (key : κ) (change : Option α → α)
    : List (κ × α) → List (κ × α)
  | [] => [(key, change none)]
  | (other, value) :: rest =>
      if key < other then (key, change none) :: (other, value) :: rest
      else if key = other then (key, change (some value)) :: rest
      else (other, value) :: updateEntry key change rest

/-- Entries in strictly ascending key order. -/
def Ascending {κ α : Type} [Key κ] (entries : List (κ × α)) : Prop :=
  (entries.map Prod.fst).Pairwise (· < ·)

section Entries

variable {κ α : Type} [Key κ]

theorem ascending_cons {entry : κ × α} {rest : List (κ × α)}
    : Ascending (entry :: rest) ↔ (∀ other ∈ rest, entry.1 < other.1) ∧ Ascending rest := by
  simp only [Ascending, List.map_cons, List.pairwise_cons, List.mem_map, forall_exists_index,
    and_imp, forall_apply_eq_imp_iff₂]

theorem lookupEntry_eq_none_of_forall_lt {key : κ} {entries : List (κ × α)}
    (h : ∀ entry ∈ entries, key < entry.1)
    : lookupEntry key entries = none := by
  induction entries with
  | nil => rfl
  | cons entry rest ih =>
      have hne : key ≠ entry.1 := Key.ne_of_lt (h entry (by simp))
      simp only [lookupEntry, hne, ↓reduceIte]
      exact ih (fun other ho => h other (List.mem_cons_of_mem entry ho))

theorem lookupEntry_eq_some_iff {key : κ} {value : α} {entries : List (κ × α)}
    (h : Ascending entries)
    : lookupEntry key entries = some value ↔ (key, value) ∈ entries := by
  induction entries with
  | nil => simp [lookupEntry]
  | cons entry rest ih =>
      obtain ⟨other, stored⟩ := entry
      obtain ⟨hlt, hrest⟩ := ascending_cons.mp h
      by_cases hkey : key = other
      · subst key
        have hnot : (other, value) ∉ rest := fun hm => Key.lt_irrefl other (hlt _ hm)
        simp [lookupEntry, hnot, eq_comm]
      · simp [lookupEntry, hkey, ih hrest]

theorem mem_updateEntry {key : κ} {change : Option α → α} {entries : List (κ × α)}
    {entry : κ × α} (h : entry ∈ updateEntry key change entries)
    : entry.1 = key ∨ entry ∈ entries := by
  induction entries with
  | nil =>
      simp only [updateEntry, List.mem_singleton] at h
      exact Or.inl (by rw [h])
  | cons first rest ih =>
      obtain ⟨other, value⟩ := first
      simp only [updateEntry] at h
      split at h
      · rcases List.mem_cons.mp h with rfl | h
        · exact Or.inl rfl
        · exact Or.inr h
      · split at h
        · rcases List.mem_cons.mp h with rfl | h
          · exact Or.inl rfl
          · exact Or.inr (List.mem_cons_of_mem _ h)
        · rcases List.mem_cons.mp h with rfl | h
          · exact Or.inr (by simp)
          · exact (ih h).imp id (List.mem_cons_of_mem _)

theorem ascending_updateEntry {key : κ} {change : Option α → α} {entries : List (κ × α)}
    (h : Ascending entries)
    : Ascending (updateEntry key change entries) := by
  induction entries with
  | nil => simp [updateEntry, Ascending]
  | cons first rest ih =>
      obtain ⟨other, value⟩ := first
      obtain ⟨hlt, hrest⟩ := ascending_cons.mp h
      simp only [updateEntry]
      split
      next hkey =>
        refine ascending_cons.mpr ⟨?_, h⟩
        intro entry hm
        rcases List.mem_cons.mp hm with rfl | hm
        · exact hkey
        · exact Key.lt_trans hkey (hlt entry hm)
      next hkey =>
        split
        next heq =>
          subst heq
          exact ascending_cons.mpr ⟨hlt, hrest⟩
        next hne =>
          refine ascending_cons.mpr ⟨?_, ih hrest⟩
          intro entry hm
          rcases mem_updateEntry hm with heq | hm
          · rcases Key.lt_or_eq_or_lt key other with hl | he | hg
            · exact absurd hl hkey
            · exact absurd he hne
            · rw [heq]
              exact hg
          · exact hlt entry hm

theorem lookupEntry_updateEntry {key : κ} {change : Option α → α} {entries : List (κ × α)}
    (h : Ascending entries) (query : κ)
    : lookupEntry query (updateEntry key change entries)
        = if query = key then some (change (lookupEntry key entries))
          else lookupEntry query entries := by
  induction entries with
  | nil => simp [updateEntry, lookupEntry]
  | cons first rest ih =>
      obtain ⟨other, value⟩ := first
      obtain ⟨hlt, hrest⟩ := ascending_cons.mp h
      simp only [updateEntry]
      split
      next hkey =>
        have hnone : lookupEntry key ((other, value) :: rest) = none := by
          apply lookupEntry_eq_none_of_forall_lt
          intro entry hm
          rcases List.mem_cons.mp hm with rfl | hm
          · exact hkey
          · exact Key.lt_trans hkey (hlt entry hm)
        rw [hnone]
        simp only [lookupEntry]
      next hkey =>
        split
        next heq =>
          subst heq
          by_cases hq : query = key <;> simp [lookupEntry, hq]
        next hne =>
          by_cases hq : query = other
          · subst hq
            simp [lookupEntry, Ne.symm hne]
          · simp only [lookupEntry, hq, ↓reduceIte, ih hrest, hne]

theorem ascending_ext {left right : List (κ × α)} (hl : Ascending left) (hr : Ascending right)
    (h : ∀ key, lookupEntry key left = lookupEntry key right)
    : left = right := by
  induction left generalizing right with
  | nil =>
      cases right with
      | nil => rfl
      | cons entry rest => simpa [lookupEntry] using h entry.1
  | cons first rest ih =>
      cases right with
      | nil => simpa [lookupEntry] using h first.1
      | cons other tail =>
          obtain ⟨hfirst, hrest⟩ := ascending_cons.mp hl
          obtain ⟨hother, htail⟩ := ascending_cons.mp hr
          have hmem : first ∈ other :: tail :=
            (lookupEntry_eq_some_iff hr).mp (by
              rw [← h first.1]
              simp [lookupEntry])
          have hmem' : other ∈ first :: rest :=
            (lookupEntry_eq_some_iff hl).mp (by
              rw [h other.1]
              simp [lookupEntry])
          have heq : first = other := by
            rcases List.mem_cons.mp hmem with heq | hm
            · exact heq
            · rcases List.mem_cons.mp hmem' with heq | hm'
              · exact heq.symm
              · exact absurd (hother first hm) (Key.lt_asymm (hfirst other hm'))
          subst heq
          have htails : ∀ key, lookupEntry key rest = lookupEntry key tail := by
            intro key
            by_cases hk : key = first.1
            · rw [hk, lookupEntry_eq_none_of_forall_lt hfirst,
                lookupEntry_eq_none_of_forall_lt hother]
            · simpa [lookupEntry, hk] using h key
          rw [ih hrest htail htails]

end Entries

/-- A finite map whose entries stand in ascending key order. -/
structure SortedMap (κ : Type) [Key κ] (α : Type) where
  entries : List (κ × α)
  ascending : Ascending entries

namespace SortedMap

variable {κ α : Type} [Key κ]

instance [DecidableEq α] : DecidableEq (SortedMap κ α) := fun left right =>
  decidable_of_iff (left.entries = right.entries)
    ⟨fun h => by cases left; cases right; cases h; rfl, fun h => by rw [h]⟩

instance [Repr κ] [Repr α] : Repr (SortedMap κ α) where
  reprPrec map precedence := reprPrec map.entries precedence

def empty : SortedMap κ α := ⟨[], List.Pairwise.nil⟩

instance : EmptyCollection (SortedMap κ α) := ⟨empty⟩

instance : Inhabited (SortedMap κ α) := ⟨empty⟩

def find? (map : SortedMap κ α) (key : κ) : Option α := lookupEntry key map.entries

def contains (map : SortedMap κ α) (key : κ) : Bool := (map.find? key).isSome

def keys (map : SortedMap κ α) : List κ := map.entries.map Prod.fst

def size (map : SortedMap κ α) : Nat := map.entries.length

def isEmpty (map : SortedMap κ α) : Bool := map.entries.isEmpty

/-- Gives a key the value computed from the one it has now, if it has one. -/
def update (map : SortedMap κ α) (key : κ) (change : Option α → α) : SortedMap κ α :=
  ⟨updateEntry key change map.entries, ascending_updateEntry map.ascending⟩

/-- Gives a key a value, whatever it had before. -/
def insert (map : SortedMap κ α) (key : κ) (value : α) : SortedMap κ α :=
  map.update key (fun _ => value)

/-- Gives a key a value unless it already has one. -/
def insertNew (map : SortedMap κ α) (key : κ) (value : α) : SortedMap κ α :=
  map.update key (fun present => present.getD value)

/-- Later pairs overwrite earlier ones with the same key. -/
def ofList (pairs : List (κ × α)) : SortedMap κ α :=
  pairs.foldl (fun map pair => map.insert pair.1 pair.2) empty

/-- Adds every entry of the second map; where both have the key, the values are combined. -/
def unionWith (combine : α → α → α) (base extra : SortedMap κ α) : SortedMap κ α :=
  extra.entries.foldl
    (fun map entry =>
      map.update entry.1 (fun present => (present.map (combine · entry.2)).getD entry.2))
    base

/-- Adds the entries of the second map whose keys the first one lacks. -/
def union (base extra : SortedMap κ α) : SortedMap κ α :=
  unionWith (fun present _ => present) base extra

/-- Two maps with the same look-ups are the same map. -/
@[ext]
theorem ext {left right : SortedMap κ α} (h : ∀ key, left.find? key = right.find? key)
    : left = right := by
  have hentries : left.entries = right.entries := ascending_ext left.ascending right.ascending h
  cases left
  cases right
  cases hentries
  rfl

@[simp]
theorem find?_empty (key : κ)
    : (empty : SortedMap κ α).find? key = none := rfl

theorem find?_eq_some_iff (map : SortedMap κ α) (key : κ) (value : α)
    : map.find? key = some value ↔ (key, value) ∈ map.entries :=
  lookupEntry_eq_some_iff map.ascending

theorem find?_update (map : SortedMap κ α) (key query : κ) (change : Option α → α)
    : (map.update key change).find? query
        = if query = key then some (change (map.find? key)) else map.find? query :=
  lookupEntry_updateEntry map.ascending query

theorem find?_insert (map : SortedMap κ α) (key query : κ) (value : α)
    : (map.insert key value).find? query
        = if query = key then some value else map.find? query :=
  find?_update map key query _

/-- Writing what is there already changes nothing. -/
theorem insert_of_find? {map : SortedMap κ α} {key : κ} {value : α}
    (h : map.find? key = some value)
    : map.insert key value = map := by
  ext query : 1
  rw [find?_insert]
  split
  next heq => rw [heq, h]
  next => rfl

theorem find?_insertNew (map : SortedMap κ α) (key query : κ) (value : α)
    : (map.insertNew key value).find? query
        = if query = key then some ((map.find? key).getD value) else map.find? query :=
  find?_update map key query _

/-- The look-ups after adding ascending entries one by one, by induction on the entries. -/
theorem find?_foldl_update (combine : α → α → α) (base : SortedMap κ α)
    (entries : List (κ × α)) (h : Ascending entries) (query : κ)
    : (entries.foldl
        (fun map entry =>
          map.update entry.1 (fun present => (present.map (combine · entry.2)).getD entry.2))
        base).find? query
        = match lookupEntry query entries with
          | none => base.find? query
          | some value => some (((base.find? query).map (combine · value)).getD value) := by
  induction entries generalizing base with
  | nil => simp [lookupEntry]
  | cons entry rest ih =>
      obtain ⟨hlt, hrest⟩ := ascending_cons.mp h
      rw [List.foldl_cons, ih _ hrest]
      by_cases hq : query = entry.1
      · subst hq
        rw [lookupEntry_eq_none_of_forall_lt hlt]
        simp [lookupEntry, find?_update]
      · simp only [lookupEntry, hq, ↓reduceIte, find?_update]

theorem find?_unionWith (combine : α → α → α) (base extra : SortedMap κ α) (query : κ)
    : (unionWith combine base extra).find? query
        = match extra.find? query with
          | none => base.find? query
          | some value => some (((base.find? query).map (combine · value)).getD value) :=
  find?_foldl_update combine base extra.entries extra.ascending query

theorem find?_union (base extra : SortedMap κ α) (query : κ)
    : (union base extra).find? query = (base.find? query).or (extra.find? query) := by
  rw [union, find?_unionWith]
  cases extra.find? query <;> cases base.find? query <;> rfl

theorem mem_keys (map : SortedMap κ α) (key : κ)
    : key ∈ map.keys ↔ (map.find? key).isSome := by
  rw [Option.isSome_iff_exists, keys, List.mem_map]
  constructor
  · rintro ⟨⟨other, value⟩, hm, rfl⟩
    exact ⟨value, (map.find?_eq_some_iff other value).mpr hm⟩
  · rintro ⟨value, hv⟩
    exact ⟨(key, value), (map.find?_eq_some_iff key value).mp hv, rfl⟩

end SortedMap

end SupplyGraph
