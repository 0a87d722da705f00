import SupplyGraph.Proofs.Entry.Resolution
import SupplyGraph.Proofs.Labels.Agreement
import SupplyGraph.Proofs.Sorted.Gathering

/-!
What the purchases of an entry come to. They are accepted exactly when no provider gets two labels,
and then every map of the provision is filled from the list of purchases on its own.
-/

namespace SupplyGraph

namespace Purchase

/-- The label that a purchase gives to its provider. -/
def label (purchase : Purchase) : EntityType × Relationship :=
  (purchase.provider, purchase.relationship)

/-- What a purchase takes from its provider. -/
def wares (purchase : Purchase) : EntityType × SortedSet CommodityType :=
  (purchase.provider, purchase.commodities)

/-- How many providers a purchase asks for, if it says so. -/
def bounds? (purchase : Purchase) : Option (EntityType × Cardinality) :=
  purchase.cardinality.map (fun cardinality => (purchase.provider, cardinality))

end Purchase

/-- The pairs whose label is the hosting one. -/
def hostingPairs (pairs : List (EntityType × Relationship)) : List (EntityType × Relationship) :=
  pairs.filter (fun pair => pair.2.isHosting)

/-- The hosting pairs are the pairs whose label is hosting. -/
theorem mem_hostingPairs {pairs : List (EntityType × Relationship)} {provider : EntityType}
    {label : Relationship}
    : (provider, label) ∈ hostingPairs pairs ↔ label = .hosting ∧ (provider, .hosting) ∈ pairs := by
  simp only [hostingPairs, List.mem_filter, Relationship.isHosting, decide_eq_true_eq]
  constructor
  · intro h
    obtain ⟨hm, rfl⟩ := h
    exact ⟨rfl, hm⟩
  · intro h
    obtain ⟨rfl, hm⟩ := h
    exact ⟨hm, rfl⟩

theorem hostingPairs_append (front back : List (EntityType × Relationship))
    : hostingPairs (front ++ back) = hostingPairs front ++ hostingPairs back :=
  List.filter_append front back

/-- All hosting pairs have one label, so they never contradict each other. -/
theorem singleValued_hostingPairs (pairs : List (EntityType × Relationship))
    : SingleValued (hostingPairs pairs) := by
  intro provider first second hf hs
  rw [(mem_hostingPairs.mp hf).1, (mem_hostingPairs.mp hs).1]

namespace Provision

/-- What purchases come to where no provider gets two labels. -/
def gathered (purchases : List Purchase) : Provision where
  bought := SortedMap.gather (purchases.map Purchase.wares)
  labels := SortedMap.firsts (purchases.map Purchase.label)
  cardinalities := SortedMap.firsts (purchases.filterMap Purchase.bounds?)
  hosting := SortedMap.firsts (hostingPairs (purchases.map Purchase.label))
  hosted :=
    SortedMap.gather
      ((purchases.filter (fun purchase => purchase.relationship.isHosting)).map Purchase.wares)

/-- The provision with a purchase added, whatever label its provider had. -/
def adding (provision : Provision) (purchase : Purchase) : Provision where
  bought := provision.bought.addAll purchase.provider purchase.commodities
  labels := provision.labels.insert purchase.provider purchase.relationship
  cardinalities :=
    match purchase.cardinality with
    | none => provision.cardinalities
    | some cardinality => provision.cardinalities.insertNew purchase.provider cardinality
  hosting :=
    if purchase.relationship.isHosting then
      provision.hosting.insert purchase.provider purchase.relationship
    else provision.hosting
  hosted :=
    if purchase.relationship.isHosting then
      provision.hosted.addAll purchase.provider purchase.commodities
    else provision.hosted

/-- A purchase is added exactly when its provider has no other label. -/
theorem add_eq_ok_iff {provision next : Provision} {position : Nat} {purchase : Purchase}
    : provision.add position purchase = .ok next
      ↔ provision.labels.conflict? purchase.provider purchase.relationship = none
        ∧ provision.adding purchase = next := by
  rw [add, Labels.declare]
  cases provision.labels.conflict? purchase.provider purchase.relationship with
  | some cause =>
      simp only [reduceCtorEq, false_and, iff_false]
      nofun
  | none =>
      rw [bind_eq_ok_iff]
      simp only [Except.ok.injEq, exists_eq_left', true_and, adding]
      cases purchase.relationship.isHosting
      · exact pure_eq_ok_iff
      · exact pure_eq_ok_iff

/-- A purchase at the end of the list is added to what the others come to. -/
theorem gathered_concat {purchases : List Purchase} {purchase : Purchase}
    (h : SingleValued ((purchases ++ [purchase]).map Purchase.label))
    : gathered (purchases ++ [purchase]) = (gathered purchases).adding purchase := by
  have hlabels : SingleValued (purchases.map Purchase.label ++ [purchase.label]) := by
    simpa using h
  have hhosting := singleValued_hostingPairs (purchases.map Purchase.label ++ [purchase.label])
  simp only [gathered, adding, mk.injEq, List.map_append, List.map_cons, List.map_nil,
    List.filterMap_append, List.filter_append]
  refine ⟨?_, ?_, ?_, ?_, ?_⟩
  · exact SortedMap.gather_concat _ _ _
  · exact (SortedMap.insert_firsts hlabels).symm
  · cases hc : purchase.cardinality <;>
      simp [Purchase.bounds?, hc, SortedMap.firsts_concat]
  · cases hr : purchase.relationship.isHosting with
    | true =>
        simp only [hostingPairs, Purchase.label, List.filter_append, List.filter_cons, hr,
          ↓reduceIte, List.filter_nil] at hhosting ⊢
        exact (SortedMap.insert_firsts hhosting).symm
    | false => simp [hostingPairs, Purchase.label, hr]
  · cases hr : purchase.relationship.isHosting <;>
      simp [Purchase.wares, hr, SortedMap.gather_concat]

/-- The label of a purchase behind others is no conflict exactly when all labels agree. -/
theorem conflict?_gathered_eq_none_iff {purchases : List Purchase} {purchase : Purchase}
    (h : SingleValued (purchases.map Purchase.label))
    : (gathered purchases).labels.conflict? purchase.provider purchase.relationship = none
      ↔ SingleValued ((purchases ++ [purchase]).map Purchase.label) := by
  rw [Labels.conflict?_eq_none_iff, List.map_append, List.map_singleton,
    singleValued_concat_iff h]
  simp only [gathered, SortedMap.find?_firsts_eq_some_iff h]
  rfl

/-- Purchases behind others are gathered exactly when the labels of all agree, by induction on
those that are still to be gathered. -/
theorem foldlM_add_gathered_eq_ok_iff (done : List Purchase)
    (h : SingleValued (done.map Purchase.label)) (position : Nat) (rest : List Purchase)
    {provision : Provision}
    : (rest.zipIdx position).foldlM
          (fun provision (purchase, position) => provision.add position purchase) (gathered done)
        = .ok provision
      ↔ SingleValued ((done ++ rest).map Purchase.label)
        ∧ gathered (done ++ rest) = provision := by
  induction rest generalizing done position with
  | nil =>
      simp only [List.zipIdx_nil, List.foldlM_nil, List.append_nil, h, true_and, pure_eq_ok_iff]
  | cons purchase rest ih =>
      simp only [List.zipIdx_cons, List.foldlM_cons, bind_eq_ok_iff, add_eq_ok_iff,
        conflict?_gathered_eq_none_iff h]
      have happend : done ++ purchase :: rest = done ++ [purchase] ++ rest := by simp
      rw [happend]
      constructor
      · intro hi
        obtain ⟨_, ⟨hs, rfl⟩, hrest⟩ := hi
        rw [← gathered_concat hs] at hrest
        exact (ih _ hs (position + 1)).mp hrest
      · intro hi
        obtain ⟨hs, hp⟩ := hi
        -- What agrees as a whole agrees up to this purchase.
        have hstep : SingleValued ((done ++ [purchase]).map Purchase.label) := by
          rw [List.map_append] at hs
          exact (singleValued_append_iff.mp hs).1
        refine ⟨_, ⟨hstep, rfl⟩, ?_⟩
        rw [← gathered_concat hstep]
        exact (ih _ hstep (position + 1)).mpr ⟨hs, hp⟩

/-- Purchases are accepted exactly when no provider gets two labels. -/
theorem ofPurchases_eq_ok_iff {purchases : List Purchase} {provision : Provision}
    : ofPurchases purchases = .ok provision
      ↔ SingleValued (purchases.map Purchase.label) ∧ gathered purchases = provision :=
  foldlM_add_gathered_eq_ok_iff [] singleValued_nil 0 purchases

end Provision

end SupplyGraph
