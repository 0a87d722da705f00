import SupplyGraph.Proofs.Compile.Contents

/-!
What a list of purchases comes to, whatever it is. It is refused for the first purchase that gives
its provider another label than one before it; otherwise each map of the provision follows from the
purchases from one provider at a time.
-/

namespace SupplyGraph

-----------------------------------------------------------------------------------------
-- The first contradiction
-----------------------------------------------------------------------------------------

section Pairs

variable {κ α : Type} {pairs : List (κ × α)} {position : Nat} {key : κ} {existing declared : α}

/-- The pair at a position gives its key another value than a pair before it, and no pair at a
smaller position does so. -/
structure FirstContradiction (pairs : List (κ × α)) (position : Nat) (key : κ)
    (existing declared : α)
    : Prop where
  declares : pairs[position]? = some (key, declared)
  earlier : ∃ before < position, pairs[before]? = some (key, existing)
  differ : existing ≠ declared
  least
    : ∀ smaller < position,
        ∀ before < smaller,
          ∀ name first second,
            pairs[smaller]? = some (name, second)
            → pairs[before]? = some (name, first)
            → first = second

/-- Pairs give each key one value exactly when no pair contradicts one before it. -/
theorem singleValued_take_iff
    : SingleValued (pairs.take position)
      ↔ ∀ smaller < position,
          ∀ before < smaller,
            ∀ name first second,
              pairs[smaller]? = some (name, second)
              → pairs[before]? = some (name, first)
              → first = second := by
  have hmem
      : ∀ pair, pair ∈ pairs.take position ↔ ∃ place < position, pairs[place]? = some pair := by
    intro pair
    simp only [List.mem_iff_getElem?, List.getElem?_take, Option.ite_none_right_eq_some]
  constructor
  · intro h smaller hsmaller before hbefore name first second hs hf
    exact h name first second ((hmem _).mpr ⟨before, Nat.lt_trans hbefore hsmaller, hf⟩)
      ((hmem _).mpr ⟨smaller, hsmaller, hs⟩)
  · intro h name first second hf hs
    obtain ⟨one, hone, hf⟩ := (hmem _).mp hf
    obtain ⟨other, hother, hs⟩ := (hmem _).mp hs
    rcases Nat.lt_trichotomy one other with hlt | rfl | hlt
    · exact h other hother one hlt name first second hs hf
    · exact congrArg Prod.snd (Option.some.inj (hf.symm.trans hs))
    · exact (h one hone other hlt name second first hf hs).symm

/-- The first contradiction splits the pairs: those before it do not contradict each other. -/
theorem firstContradiction_iff
    : FirstContradiction pairs position key existing declared
      ↔ SingleValued (pairs.take position)
        ∧ pairs[position]? = some (key, declared)
        ∧ (key, existing) ∈ pairs.take position
        ∧ existing ≠ declared := by
  have hmem
      : (key, existing) ∈ pairs.take position
        ↔ ∃ before < position, pairs[before]? = some (key, existing) := by
    simp only [List.mem_iff_getElem?, List.getElem?_take, Option.ite_none_right_eq_some]
  rw [singleValued_take_iff, hmem]
  constructor
  · intro h
    exact ⟨h.least, h.declares, h.earlier, h.differ⟩
  · intro h
    obtain ⟨least, declares, earlier, differ⟩ := h
    exact { declares, earlier, differ, least }

/-- A pair behind others is the first contradiction, or one of the others is. -/
theorem firstContradiction_concat_iff {pair : κ × α}
    : FirstContradiction (pairs ++ [pair]) position key existing declared
      ↔ FirstContradiction pairs position key existing declared
        ∨ SingleValued pairs
          ∧ position = pairs.length
          ∧ pair = (key, declared)
          ∧ (key, existing) ∈ pairs
          ∧ existing ≠ declared := by
  simp only [firstContradiction_iff]
  rcases Nat.lt_trichotomy position pairs.length with hlt | rfl | hgt
  · rw [List.take_append_of_le_length (Nat.le_of_lt hlt), List.getElem?_append_left hlt]
    constructor
    · exact Or.inl
    · intro hi
      rcases hi with h | ⟨_, heq, _⟩
      · exact h
      · exact absurd heq (Nat.ne_of_lt hlt)
  · simp
  · rw [List.getElem?_eq_none (by simp; omega), List.getElem?_eq_none (Nat.le_of_lt hgt)]
    simp [Nat.ne_of_gt hgt]

end Pairs

/-- The set of a key depends on the pairs with that key only. -/
theorem SortedMap.find?_gather_congr {κ α : Type} [Key κ] [Key α]
    {left right : List (κ × SortedSet α)} {key : κ}
    (h : ∀ values, (key, values) ∈ left ↔ (key, values) ∈ right)
    : (gather left).find? key = (gather right).find? key := by
  have hset : (gather left).setAt key = (gather right).setAt key := by
    ext value
    simp only [mem_setAt_gather, h]
  have hkeys : key ∈ (gather left).keys ↔ key ∈ (gather right).keys := by
    simp only [mem_keys_gather, h]
  by_cases hkey : key ∈ (gather left).keys
  · rw [find?_eq_some_setAt hkey, find?_eq_some_setAt (hkeys.mp hkey), hset]
  · rw [find?_eq_none_of_not_mem_keys hkey,
      find?_eq_none_of_not_mem_keys (fun hright => hkey (hkeys.mpr hright))]

namespace Provision

variable {purchases : List Purchase} {provision : Provision} {fault : Fault}

/-- The fault of the purchase at a position that gives its provider a second label. -/
def contradictionFault (position : Nat) (provider : EntityType)
    (existing declared : Relationship)
    : Fault :=
  ⟨((FieldPath.index [.field "commodityBought"] position).field "key").field "providerType",
    .conflictingLabels provider existing declared⟩

/-- A purchase is refused exactly when its provider has another label. -/
theorem add_eq_error_iff {position : Nat} {purchase : Purchase}
    : provision.add position purchase = .error fault
      ↔ ∃ existing,
          provision.labels.find? purchase.provider = some existing
          ∧ existing ≠ purchase.relationship
          ∧ fault
            = contradictionFault position purchase.provider existing purchase.relationship := by
  cases hc : provision.labels.conflict? purchase.provider purchase.relationship with
  | none =>
      have hagree := Labels.conflict?_eq_none_iff.mp hc
      rw [add_eq_ok_iff.mpr ⟨hc, rfl⟩]
      simp only [reduceCtorEq, false_iff]
      intro hi
      obtain ⟨existing, hexisting, hdiffer, _⟩ := hi
      exact hdiffer (hagree existing hexisting)
  | some cause =>
      obtain ⟨existing, hexisting, hdiffer, rfl⟩ := Labels.conflict?_eq_some_iff.mp hc
      have hadd
          : provision.add position purchase
            = .error
                (contradictionFault position purchase.provider existing purchase.relationship) := by
        rw [add, Labels.declare, hc]
        rfl
      rw [hadd, Except.error.injEq]
      constructor
      · intro h
        exact ⟨existing, hexisting, hdiffer, h.symm⟩
      · intro hi
        obtain ⟨other, hother, _, rfl⟩ := hi
        rw [Option.some.inj (hexisting.symm.trans hother)]

/-- The last purchase is added to what the others come to, unless these are refused. -/
theorem ofPurchases_concat (purchases : List Purchase) (purchase : Purchase)
    : ofPurchases (purchases ++ [purchase])
      = ofPurchases purchases
        >>= fun provision => provision.add purchases.length purchase := by
  simp only [ofPurchases, List.zipIdx_append, List.foldlM_append, Nat.zero_add, List.zipIdx_cons,
    List.zipIdx_nil, List.foldlM_cons, List.foldlM_nil, bind_pure]

/-- Purchases are refused for the first of them that contradicts one before it, by induction from
the last purchase. -/
theorem ofPurchases_eq_error_iff
    : ofPurchases purchases = .error fault
      ↔ ∃ position provider existing declared,
          FirstContradiction (purchases.map Purchase.label) position provider existing declared
          ∧ fault = contradictionFault position provider existing declared := by
  induction purchases using List.reverseRecOn with
  | nil =>
      constructor
      · nofun
      · intro h
        obtain ⟨position, provider, existing, declared, hfirst, _⟩ := h
        exact absurd hfirst.declares (by simp)
  | append_singleton front purchase ih =>
      simp only [ofPurchases_concat, bind_eq_error_iff, ih, ofPurchases_eq_ok_iff,
        add_eq_error_iff, List.map_append, List.map_singleton, firstContradiction_concat_iff]
      constructor
      · intro h
        rcases h with ⟨position, provider, existing, declared, hfirst, hfault⟩
          | ⟨_, ⟨hs, rfl⟩, existing, hexisting, hdiffer, hfault⟩
        · exact ⟨position, provider, existing, declared, Or.inl hfirst, hfault⟩
        · refine ⟨front.length, purchase.provider, existing, purchase.relationship,
            Or.inr ⟨hs, by simp, rfl, ?_, hdiffer⟩, hfault⟩
          exact (SortedMap.find?_firsts_eq_some_iff hs _ _).mp hexisting
      · intro hi
        obtain ⟨position, provider, existing, declared, hfirst | hlast, hfault⟩ := hi
        · exact Or.inl ⟨position, provider, existing, declared, hfirst, hfault⟩
        · obtain ⟨hs, rfl, hlabel, hm, hdiffer⟩ := hlast
          obtain ⟨rfl, rfl⟩ := Prod.mk.inj hlabel
          refine Or.inr ⟨_, ⟨hs, rfl⟩, existing, ?_, hdiffer, ?_⟩
          · exact (SortedMap.find?_firsts_eq_some_iff hs _ _).mpr hm
          · rwa [List.length_map] at hfault

-----------------------------------------------------------------------------------------
-- What accepted purchases come to
-----------------------------------------------------------------------------------------

/-- What a provision says of a provider from which the given purchases, and no others, are made:
all that they buy, the label that they have in common, and the first cardinality that one of them
states. A hosting provider has both its maps on top. -/
structure Sums (purchases : List Purchase) (provider : EntityType) (provision : Provision)
    : Prop where
  bought
    : ∃ commodities : SortedSet CommodityType,
        provision.bought.find? provider = some commodities
        ∧ ∀ commodity,
            commodity ∈ commodities ↔ ∃ purchase ∈ purchases, commodity ∈ purchase.commodities
  label
    : ∃ label,
        provision.labels.find? provider = some label
        ∧ ∀ purchase ∈ purchases, purchase.relationship = label
  cardinality
    : provision.cardinalities.find? provider = purchases.findSome? Purchase.cardinality
  hosting
    : provision.hosting.find? provider
      = if provision.labels.find? provider = some .hosting then some .hosting else none
  hosted
    : provision.hosted.find? provider
      = if provision.labels.find? provider = some .hosting then provision.bought.find? provider
        else none

/-- A provision says nothing of a provider. -/
structure Silent (provider : EntityType) (provision : Provision) : Prop where
  bought : provision.bought.find? provider = none
  label : provision.labels.find? provider = none
  cardinality : provision.cardinalities.find? provider = none
  hosting : provision.hosting.find? provider = none
  hosted : provision.hosted.find? provider = none

/-- A provision says of each provider what the purchases from it come to, and nothing else. -/
structure AddsUp (purchases : List Purchase) (provision : Provision) : Prop where
  providers
    : ∀ provider,
        Purchase.allFrom purchases provider ≠ []
        → Sums (Purchase.allFrom purchases provider) provider provision
  noOthers
    : ∀ provider, Purchase.allFrom purchases provider = [] → Silent provider provision

theorem mem_allFrom {provider : EntityType} {purchase : Purchase}
    : purchase ∈ Purchase.allFrom purchases provider
      ↔ purchase ∈ purchases ∧ purchase.provider = provider := by
  simp [Purchase.allFrom]

section Gathered

variable {provider : EntityType}

/-- A provider hosts exactly if one of the purchases from it says so. -/
theorem hostingLabel_iff (h : SingleValued (purchases.map Purchase.label))
    : (gathered purchases).labels.find? provider = some .hosting
      ↔ (provider, .hosting) ∈ purchases.map Purchase.label :=
  SortedMap.find?_firsts_eq_some_iff h _ _

/-- A provider is in the hosting map exactly when its label is the hosting one. -/
theorem find?_hosting_gathered (h : SingleValued (purchases.map Purchase.label))
    : (gathered purchases).hosting.find? provider
      = if (gathered purchases).labels.find? provider = some .hosting then some .hosting
        else none := by
  apply Option.ext
  intro label
  simp only [hostingLabel_iff h, Option.ite_none_right_eq_some, Option.some.injEq]
  rw [gathered, SortedMap.find?_firsts_eq_some_iff (singleValued_hostingPairs _),
    mem_hostingPairs, and_comm, eq_comm]

/-- What hosting providers sell is all that is bought from them. -/
theorem find?_hosted_gathered (h : SingleValued (purchases.map Purchase.label))
    : (gathered purchases).hosted.find? provider
      = if (gathered purchases).labels.find? provider = some .hosting then
          (gathered purchases).bought.find? provider
        else none := by
  by_cases hhosting : (provider, .hosting) ∈ purchases.map Purchase.label
  · rw [if_pos ((hostingLabel_iff h).mpr hhosting)]
    refine SortedMap.find?_gather_congr (fun commodities => ?_)
    rw [Declaration.mem_hosting_wares h, and_iff_right hhosting]
  · rw [if_neg (fun hlabel => hhosting ((hostingLabel_iff h).mp hlabel))]
    refine SortedMap.find?_eq_none_of_not_mem_keys (fun hkey => hhosting ?_)
    obtain ⟨_, hm⟩ := (SortedMap.mem_keys_gather _ _).mp hkey
    exact ((Declaration.mem_hosting_wares h).mp hm).1

/-- What is gathered of a provider is the sum of the purchases from it. -/
theorem sums_gathered (h : SingleValued (purchases.map Purchase.label))
    (hne : Purchase.allFrom purchases provider ≠ [])
    : Sums (Purchase.allFrom purchases provider) provider (gathered purchases) where
  bought := by
    obtain ⟨purchase, hpurchase⟩ := List.exists_mem_of_ne_nil _ hne
    obtain ⟨hm, hprovider⟩ := mem_allFrom.mp hpurchase
    have hkey : provider ∈ (gathered purchases).bought.keys :=
      (SortedMap.mem_keys_gather _ _).mpr
        ⟨_, Declaration.mem_map_wares.mpr ⟨purchase, hm, hprovider, rfl⟩⟩
    refine ⟨_, SortedMap.find?_eq_some_setAt hkey, fun commodity => ?_⟩
    rw [gathered, Purchase.mem_setAt_gather_wares]
    simp only [List.mem_map, exists_exists_and_eq_and]
  label := by
    obtain ⟨purchase, hpurchase⟩ := List.exists_mem_of_ne_nil _ hne
    obtain ⟨hm, hprovider⟩ := mem_allFrom.mp hpurchase
    have hlabel := Declaration.mem_map_label.mpr ⟨purchase, hm, hprovider, rfl⟩
    refine ⟨_, (SortedMap.find?_firsts_eq_some_iff h _ _).mpr hlabel, fun other hother => ?_⟩
    obtain ⟨hm, hprovider⟩ := mem_allFrom.mp hother
    exact h provider _ _ (Declaration.mem_map_label.mpr ⟨other, hm, hprovider, rfl⟩) hlabel
  cardinality :=
    (SortedMap.find?_firsts _ _).trans (Purchase.lookupEntry_filterMap_bounds? _ _)
  hosting := find?_hosting_gathered h
  hosted := find?_hosted_gathered h

/-- Nothing is gathered of a provider from which nothing is bought. -/
theorem silent_gathered (h : SingleValued (purchases.map Purchase.label))
    (hnil : Purchase.allFrom purchases provider = [])
    : Silent provider (gathered purchases) := by
  have hnone : ∀ purchase ∈ purchases, purchase.provider ≠ provider := by
    intro purchase hm hprovider
    exact List.ne_nil_of_mem (mem_allFrom.mpr ⟨hm, hprovider⟩) hnil
  have hbought : (gathered purchases).bought.find? provider = none := by
    refine SortedMap.find?_eq_none_of_not_mem_keys (fun hkey => ?_)
    obtain ⟨_, hm⟩ := (SortedMap.mem_keys_gather _ _).mp hkey
    obtain ⟨purchase, hm, hprovider, _⟩ := Declaration.mem_map_wares.mp hm
    exact hnone purchase hm hprovider
  have hlabel : (gathered purchases).labels.find? provider = none := by
    refine SortedMap.find?_eq_none_of_not_mem_keys (fun hkey => ?_)
    obtain ⟨_, hm⟩ := (SortedMap.mem_keys_firsts _ _).mp hkey
    obtain ⟨purchase, hm, hprovider, _⟩ := Declaration.mem_map_label.mp hm
    exact hnone purchase hm hprovider
  refine ⟨hbought, hlabel, ?_, ?_, ?_⟩
  · rw [gathered, SortedMap.find?_firsts, Purchase.lookupEntry_filterMap_bounds?, hnil]
    rfl
  · rw [find?_hosting_gathered h, hlabel]
    rfl
  · rw [find?_hosted_gathered h, hlabel]
    rfl

/-- What is gathered adds up for every provider. -/
theorem addsUp_gathered (h : SingleValued (purchases.map Purchase.label))
    : AddsUp purchases (gathered purchases) :=
  ⟨fun _ => sums_gathered h, fun _ => silent_gathered h⟩

end Gathered

/-- What purchases come to leaves no choice at a provider. -/
theorem Sums.unique {provider : EntityType} {other : Provision} (hne : purchases ≠ [])
    (h : Sums purchases provider provision) (hother : Sums purchases provider other)
    : provision.bought.find? provider = other.bought.find? provider
      ∧ provision.labels.find? provider = other.labels.find? provider := by
  obtain ⟨commodities, hbought, hcommodities⟩ := h.bought
  obtain ⟨others, hbought', hothers⟩ := hother.bought
  obtain ⟨label, hlabel, hall⟩ := h.label
  obtain ⟨label', hlabel', hall'⟩ := hother.label
  obtain ⟨purchase, hm⟩ := List.exists_mem_of_ne_nil _ hne
  have hsets : commodities = others := by
    ext commodity
    rw [hcommodities, hothers]
  rw [hbought, hbought', hlabel, hlabel', hsets, ← hall purchase hm, ← hall' purchase hm]
  exact ⟨rfl, rfl⟩

/-- Purchases come to one provision at most. -/
theorem AddsUp.unique {other : Provision} (h : AddsUp purchases provision)
    (hother : AddsUp purchases other)
    : provision = other := by
  have hat
      : ∀ provider,
          provision.bought.find? provider = other.bought.find? provider
          ∧ provision.labels.find? provider = other.labels.find? provider
          ∧ provision.cardinalities.find? provider = other.cardinalities.find? provider
          ∧ provision.hosting.find? provider = other.hosting.find? provider
          ∧ provision.hosted.find? provider = other.hosted.find? provider := by
    intro provider
    by_cases hnil : Purchase.allFrom purchases provider = []
    · obtain ⟨hb, hl, hc, hh, hs⟩ := h.noOthers provider hnil
      obtain ⟨hb', hl', hc', hh', hs'⟩ := hother.noOthers provider hnil
      exact ⟨hb.trans hb'.symm, hl.trans hl'.symm, hc.trans hc'.symm, hh.trans hh'.symm,
        hs.trans hs'.symm⟩
    · have hs := h.providers provider hnil
      have hs' := hother.providers provider hnil
      obtain ⟨hbought, hlabels⟩ := hs.unique hnil hs'
      refine ⟨hbought, hlabels, hs.cardinality.trans hs'.cardinality.symm, ?_, ?_⟩
      · rw [hs.hosting, hs'.hosting, hlabels]
      · rw [hs.hosted, hs'.hosted, hlabels, hbought]
  cases provision
  cases other
  rw [mk.injEq]
  refine ⟨?_, ?_, ?_, ?_, ?_⟩ <;> ext provider : 1
  · exact (hat provider).1
  · exact (hat provider).2.1
  · exact (hat provider).2.2.1
  · exact (hat provider).2.2.2.1
  · exact (hat provider).2.2.2.2

/-- Purchases that come to something give each provider one label. -/
theorem AddsUp.singleValued (h : AddsUp purchases provision)
    : SingleValued (purchases.map Purchase.label) := by
  intro provider first second hf hs
  obtain ⟨one, hone, hp, rfl⟩ := Declaration.mem_map_label.mp hf
  obtain ⟨other, hother, hp', rfl⟩ := Declaration.mem_map_label.mp hs
  have hfrom := mem_allFrom.mpr ⟨hone, hp⟩
  obtain ⟨label, _, hall⟩ := (h.providers provider (List.ne_nil_of_mem hfrom)).label
  rw [hall one hfrom, hall other (mem_allFrom.mpr ⟨hother, hp'⟩)]

/-- Purchases are accepted exactly as what they come to. -/
theorem ofPurchases_eq_ok_iff_addsUp
    : ofPurchases purchases = .ok provision ↔ AddsUp purchases provision := by
  rw [ofPurchases_eq_ok_iff]
  constructor
  · intro hi
    obtain ⟨h, rfl⟩ := hi
    exact addsUp_gathered h
  · intro h
    exact ⟨h.singleValued, (addsUp_gathered h.singleValued).unique h⟩

/-- Purchases are refused exactly when two from one provider give it different labels, and then for
the first that contradicts one before it. All others come to one provision, which says of each
provider what the purchases from it do and nothing of any other. -/
theorem ofPurchases_refuses_first_contradiction_or_adds_up (purchases : List Purchase)
    : ((∃ fault, ofPurchases purchases = .error fault)
        ↔ ∃ first ∈ purchases,
            ∃ second ∈ purchases,
              first.provider = second.provider ∧ first.relationship ≠ second.relationship)
      ∧ (∀ fault,
          ofPurchases purchases = .error fault
          ↔ ∃ position provider existing declared,
              FirstContradiction (purchases.map Purchase.label) position provider existing
                declared
              ∧ fault = contradictionFault position provider existing declared)
      ∧ ∀ provision, ofPurchases purchases = .ok provision ↔ AddsUp purchases provision := by
  refine ⟨?_, fun _ => ofPurchases_eq_error_iff, fun _ => ofPurchases_eq_ok_iff_addsUp⟩
  constructor
  · intro h
    obtain ⟨fault, hfault⟩ := h
    obtain ⟨_, _, _, _, hfirst, _⟩ := ofPurchases_eq_error_iff.mp hfault
    obtain ⟨before, _, hbefore⟩ := hfirst.earlier
    obtain ⟨second, hs, hp, rfl⟩ :=
      Declaration.mem_map_label.mp (List.mem_of_getElem? hfirst.declares)
    obtain ⟨first, hf, hp', rfl⟩ := Declaration.mem_map_label.mp (List.mem_of_getElem? hbefore)
    exact ⟨first, hf, second, hs, hp'.trans hp.symm, hfirst.differ⟩
  · intro h
    obtain ⟨first, hf, second, hs, hprovider, hdiffer⟩ := h
    cases hresult : ofPurchases purchases with
    | error fault => exact ⟨fault, rfl⟩
    | ok provision =>
        have hall := (ofPurchases_eq_ok_iff.mp hresult).1
        exact absurd
          (hall first.provider _ _ (Declaration.mem_map_label.mpr ⟨first, hf, rfl, rfl⟩)
            (Declaration.mem_map_label.mpr ⟨second, hs, hprovider.symm, rfl⟩))
          hdiffer

end Provision

end SupplyGraph
