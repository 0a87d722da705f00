import SupplyGraph.Labels

/-!
Agreement of label maps. The search for a difference finds the least provider at which two maps
disagree, and finds none exactly when they agree everywhere.
-/

namespace SupplyGraph.Labels

/-- No provider has different labels in the two maps. -/
def Agree (left right : Labels) : Prop :=
  ∀ provider first second,
    left.find? provider = some first → right.find? provider = some second → first = second

/-- The two maps disagree at a provider, and at no smaller one. -/
structure LeastDifference (existing incoming : Labels) (provider : EntityType)
    (current declared : Relationship)
    : Prop where
  existingLabel : existing.find? provider = some current
  incomingLabel : incoming.find? provider = some declared
  differ : current ≠ declared
  least
    : ∀ smaller < provider,
        ∀ first second,
          existing.find? smaller = some first
          → incoming.find? smaller = some second
          → first = second

/-- Labels with a difference do not agree. -/
theorem LeastDifference.not_agree {existing incoming : Labels} {provider : EntityType}
    {current declared : Relationship}
    (h : LeastDifference existing incoming provider current declared)
    : ¬ Agree existing incoming :=
  fun hagree => h.differ (hagree provider current declared h.existingLabel h.incomingLabel)

/-- What the search for a difference reports at one entry of the incoming labels. -/
def difference? (existing : Labels) (entry : EntityType × Relationship)
    : Option (EntityType × Relationship × Relationship) :=
  match existing.find? entry.1 with
  | none => none
  | some current => if current = entry.2 then none else some (entry.1, current, entry.2)

/-- An entry makes no difference if its key is missing or has the same label. -/
theorem difference?_eq_none_iff {existing : Labels} {entry : EntityType × Relationship}
    : existing.difference? entry = none
      ↔ ∀ current, existing.find? entry.1 = some current → current = entry.2 := by
  rw [difference?]
  cases existing.find? entry.1 <;> simp

/-- An entry makes a difference if its key has another label, and both labels are told. -/
theorem difference?_eq_some_iff {existing : Labels} {entry : EntityType × Relationship}
    {provider : EntityType} {current declared : Relationship}
    : existing.difference? entry = some (provider, current, declared)
      ↔ entry = (provider, declared)
        ∧ existing.find? provider = some current
        ∧ current ≠ declared := by
  obtain ⟨key, label⟩ := entry
  cases hf : existing.find? key with
  | none =>
      simp only [difference?, hf, reduceCtorEq, Prod.mk.injEq, false_iff, not_and]
      intro h hsome
      obtain ⟨rfl, rfl⟩ := h
      simp [hf] at hsome
  | some found =>
      simp only [difference?, hf, Prod.mk.injEq, Option.ite_none_left_eq_some,
        Option.some.injEq]
      constructor
      · intro h
        obtain ⟨hne, rfl, rfl, rfl⟩ := h
        exact ⟨⟨rfl, rfl⟩, hf, hne⟩
      · intro h
        obtain ⟨⟨rfl, rfl⟩, hsome, hne⟩ := h
        obtain rfl : found = current := by simpa [hf] using hsome
        exact ⟨hne, rfl, rfl, rfl⟩

/-- No difference is found exactly when the labels agree. -/
theorem firstDifference?_eq_none_iff {existing incoming : Labels}
    : existing.firstDifference? incoming = none ↔ Agree existing incoming := by
  change incoming.entries.findSome? existing.difference? = none ↔ _
  rw [List.findSome?_eq_none_iff]
  constructor
  · intro h provider first second hf hs
    have hm := (incoming.find?_eq_some_iff provider second).mp hs
    exact difference?_eq_none_iff.mp (h _ hm) first hf
  · intro h entry hm
    obtain ⟨provider, declared⟩ := entry
    have hs := (incoming.find?_eq_some_iff provider declared).mpr hm
    exact difference?_eq_none_iff.mpr (fun current hf => h provider current declared hf hs)

/-- The entries are searched in ascending order, so that the first difference is the least. -/
theorem firstDifference?_eq_some_iff {existing incoming : Labels} {provider : EntityType}
    {current declared : Relationship}
    : existing.firstDifference? incoming = some (provider, current, declared)
      ↔ LeastDifference existing incoming provider current declared := by
  change incoming.entries.findSome? existing.difference? = some _ ↔ _
  rw [List.findSome?_eq_some_iff]
  constructor
  · intro hi
    obtain ⟨front, entry, back, hentries, hfound, hfront⟩ := hi
    obtain ⟨rfl, hf, hne⟩ := difference?_eq_some_iff.mp hfound
    have hascending := incoming.ascending
    rw [hentries, Ascending, List.map_append, List.pairwise_append] at hascending
    refine ⟨hf, (incoming.find?_eq_some_iff _ _).mpr (by simp [hentries]), hne, ?_⟩
    intro smaller hlt first second hfirst hsecond
    have hm := (incoming.find?_eq_some_iff smaller second).mp hsecond
    rw [hentries] at hm
    rcases List.mem_append.mp hm with hm | hm
    · exact difference?_eq_none_iff.mp (hfront _ hm) first hfirst
    · -- From the found entry on, no key is smaller.
      rcases List.mem_cons.mp hm with he | hm
      · exact absurd (congrArg Prod.fst he) (Key.ne_of_lt hlt)
      · exact absurd ((ascending_cons.mp hascending.2.1).1 _ hm) (Key.lt_asymm hlt)
  · intro h
    have hm := (incoming.find?_eq_some_iff provider declared).mp h.incomingLabel
    obtain ⟨front, back, hentries⟩ := List.append_of_mem hm
    have hascending := incoming.ascending
    rw [hentries, Ascending, List.map_append, List.pairwise_append] at hascending
    refine ⟨front, (provider, declared), back, hentries,
      difference?_eq_some_iff.mpr ⟨rfl, h.existingLabel, h.differ⟩, ?_⟩
    intro entry hfront
    obtain ⟨smaller, second⟩ := entry
    have hlt : smaller < provider :=
      hascending.2.2 _ (List.mem_map_of_mem hfront) _ (by simp)
    have hsecond : incoming.find? smaller = some second :=
      (incoming.find?_eq_some_iff smaller second).mpr (by simp [hentries, hfront])
    exact difference?_eq_none_iff.mpr
      (fun first hfirst => h.least smaller hlt first second hfirst hsecond)

/-- Maps have one least difference at most, which is the one that the search finds. -/
theorem LeastDifference.unique {existing incoming : Labels} {provider other : EntityType}
    {current declared first second : Relationship}
    (h : LeastDifference existing incoming provider current declared)
    (ho : LeastDifference existing incoming other first second)
    : other = provider ∧ first = current ∧ second = declared := by
  have heq := firstDifference?_eq_some_iff.mpr h
  rw [firstDifference?_eq_some_iff.mpr ho] at heq
  simpa using heq

/-- Declaring a label for a provider is a conflict exactly when the provider has another one. -/
theorem conflict?_eq_none_iff {labels : Labels} {provider : EntityType} {declared : Relationship}
    : labels.conflict? provider declared = none
      ↔ ∀ existing, labels.find? provider = some existing → existing = declared := by
  rw [conflict?]
  cases labels.find? provider <;> simp

/-- A conflict names the label that the provider has and the one that is declared. -/
theorem conflict?_eq_some_iff {labels : Labels} {provider : EntityType} {declared : Relationship}
    {cause : Cause}
    : labels.conflict? provider declared = some cause
      ↔ ∃ existing,
          labels.find? provider = some existing
          ∧ existing ≠ declared
          ∧ cause = .conflictingLabels provider existing declared := by
  rw [conflict?]
  cases labels.find? provider <;> simp [eq_comm]

end SupplyGraph.Labels
