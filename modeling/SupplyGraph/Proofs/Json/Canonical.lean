import Mathlib.Data.List.Perm.Basic
import SupplyGraph.Proofs.Json.Reading
import SupplyGraph.Proofs.Sorted.Listing
import SupplyGraph.Proofs.Text.Octets

/-!
The canonical form. Values in which every key stands once have the same canonical text exactly when
they are the same up to the order of members, and the canonical text reads back as such a value.
-/

namespace SupplyGraph.Json

-----------------------------------------------------------------------------------------
-- Properties of all objects in a value
-----------------------------------------------------------------------------------------

/-- The keys of every object in the value, at every depth, have a property. -/
inductive EveryObject (p : List String → Prop) : Json → Prop where
  | null
    : EveryObject p .null
  | bool (value : Bool)
    : EveryObject p (.bool value)
  | number (value : Number)
    : EveryObject p (.number value)
  | string (value : String)
    : EveryObject p (.string value)
  | array {items : List Json} (each : ∀ item ∈ items, EveryObject p item)
    : EveryObject p (.array items)
  | object {members : List (String × Json)} (keys : p (members.map Prod.fst))
      (each : ∀ member ∈ members, EveryObject p member.2)
    : EveryObject p (.object members)
  | unreadable
    : EveryObject p .unreadable

/-- No object in the value has two members with the same key. -/
def HasDistinctKeys : Json → Prop := EveryObject List.Nodup

/-- The members of every object in the value are in strictly ascending order of the UTF-8 bytes of
their keys. -/
def HasAscendingKeys : Json → Prop :=
  EveryObject (fun keys => keys.Pairwise (fun left right => Text.octets left < Text.octets right))

theorem EveryObject.imp {p q : List String → Prop} (h : ∀ keys, p keys → q keys) {json : Json}
    (hp : json.EveryObject p)
    : json.EveryObject q := by
  induction hp with
  | null => exact .null
  | bool value => exact .bool value
  | number value => exact .number value
  | string value => exact .string value
  | array _ ih => exact .array ih
  | object keys _ ih => exact .object (h _ keys) ih
  | unreadable => exact .unreadable

theorem HasAscendingKeys.hasDistinctKeys {json : Json} (h : json.HasAscendingKeys)
    : json.HasDistinctKeys := by
  refine h.imp (fun keys hkeys => hkeys.imp (fun hlt heq => ?_))
  rw [heq] at hlt
  exact List.lt_irrefl _ hlt

-----------------------------------------------------------------------------------------
-- Values that are the same up to the order of members
-----------------------------------------------------------------------------------------

/-- The values differ at most in the order in which the members of objects stand, at any depth. -/
inductive SameUpToOrder : Json → Json → Prop where
  | refl (json : Json)
    : SameUpToOrder json json
  | array {items others : List Json} (length : items.length = others.length)
      (same : ∀ pair ∈ items.zip others, SameUpToOrder pair.1 pair.2)
    : SameUpToOrder (.array items) (.array others)
  | object {members others arranged : List (String × Json)} (order : arranged.Perm others)
      (length : members.length = arranged.length)
      (keys : ∀ pair ∈ members.zip arranged, pair.1.1 = pair.2.1)
      (same : ∀ pair ∈ members.zip arranged, SameUpToOrder pair.1.2 pair.2.2)
    : SameUpToOrder (.object members) (.object others)

-----------------------------------------------------------------------------------------
-- Canonical objects
-----------------------------------------------------------------------------------------

theorem canonicalMember_fst (members : List (String × Json))
    : (members.map canonicalMember).map Prod.fst = members.map Prod.fst := by
  rw [List.map_map]
  rfl

/-- Every member of a canonical object is a member of the object in canonical form. -/
theorem exists_of_mem_canonical {members : List (String × Json)} {member : String × Json}
    (h : member ∈ (SortedMap.ofList (members.map canonicalMember)).entries)
    : ∃ source ∈ members, canonicalMember source = member :=
  List.mem_map.mp (SortedMap.mem_of_mem_ofList h)

/-- The canonical form of an exact value is exact, by induction on the value. -/
theorem IsExact.canonical {json : Json} (h : json.IsExact)
    : json.canonical.IsExact := by
  induction h with
  | null => exact .null
  | bool value => exact .bool value
  | integer least most => exact .integer least most
  | string value => exact .string value
  | @array items _ ih =>
      rw [canonical_array]
      exact .array (List.forall_mem_map.mpr ih)
  | @object members _ ih =>
      rw [canonical_object]
      refine .object (fun member hm => ?_)
      obtain ⟨source, hs, rfl⟩ := exists_of_mem_canonical hm
      exact ih source hs

/-- In canonical form all members are in ascending order, by induction on the value. -/
theorem hasAscendingKeys_canonical (json : Json)
    : json.canonical.HasAscendingKeys := by
  induction json using Json.induction with
  | null => exact .null
  | bool value => exact .bool value
  | number value => exact .number value
  | string value => exact .string value
  | array items ih =>
      rw [canonical_array]
      exact .array (List.forall_mem_map.mpr ih)
  | object members ih =>
      rw [canonical_object]
      refine .object ((SortedMap.ascending _).imp Text.octets_lt) (fun member hm => ?_)
      obtain ⟨source, hs, rfl⟩ := exists_of_mem_canonical hm
      exact ih source hs
  | unreadable => exact .unreadable

/-- The canonical form is its own canonical form, by induction on the value. -/
theorem canonical_canonical (json : Json)
    : json.canonical.canonical = json.canonical := by
  induction json using Json.induction with
  | null => rfl
  | bool value => rfl
  | number value => rfl
  | string value => rfl
  | unreadable => rfl
  | array items ih =>
      rw [canonical_array, canonical_array, List.map_map]
      exact congrArg Json.array (List.map_congr_left ih)
  | object members ih =>
      rw [canonical_object, canonical_object]
      have hmembers
          : (SortedMap.ofList (members.map canonicalMember)).entries.map canonicalMember
            = (SortedMap.ofList (members.map canonicalMember)).entries := by
        refine (List.map_congr_left (fun member hm => ?_)).trans (List.map_id _)
        obtain ⟨source, hs, rfl⟩ := exists_of_mem_canonical hm
        exact Prod.ext rfl (ih source hs)
      rw [hmembers, SortedMap.ofList_entries]

/-- Objects in which every key stands once have the same canonical form when their members in
canonical form are the same in some order. -/
theorem canonical_object_eq_iff {members others : List (String × Json)}
    (hm : (members.map Prod.fst).Nodup) (ho : (others.map Prod.fst).Nodup)
    : (Json.object members).canonical = (Json.object others).canonical
      ↔ (members.map canonicalMember).Perm (others.map canonicalMember) := by
  rw [← canonicalMember_fst] at hm ho
  rw [canonical_object, canonical_object, ← SortedMap.ofList_eq_iff_perm hm ho, Json.object.injEq]
  exact ⟨fun h => SortedMap.ext_of_perm (.of_eq h), fun h => congrArg SortedMap.entries h⟩

-----------------------------------------------------------------------------------------
-- Equal canonical forms
-----------------------------------------------------------------------------------------

/-- Two lists have the same images when the images agree place by place. -/
theorem map_eq_map_iff_zip {α β : Type} {f : α → β} {left right : List α}
    : left.map f = right.map f
      ↔ left.length = right.length ∧ ∀ pair ∈ left.zip right, f pair.1 = f pair.2 := by
  induction left generalizing right with
  | nil => cases right <;> simp
  | cons first rest ih =>
      cases right with
      | nil => simp
      | cons other tail =>
          rw [List.map_cons, List.map_cons, List.cons.injEq, ih, List.zip_cons_cons,
            List.forall_mem_cons, List.length_cons, List.length_cons, Nat.add_right_cancel_iff,
            and_left_comm]

/-- Two lists have the same images up to order when one of them can be arranged so that the images
are the same. -/
theorem map_perm_map_iff_exists {α β : Type} {f : α → β} {left right : List α}
    : (left.map f).Perm (right.map f)
      ↔ ∃ arranged : List α, left.map f = arranged.map f ∧ arranged.Perm right := by
  have h := congrFun (congrFun (List.eq_map_comp_perm f) (left.map f)) right
  rw [← h]
  rfl

/-- What differs only in the order of members has the same canonical form, by induction on the
evidence. -/
theorem SameUpToOrder.canonical_eq {json other : Json} (h : json.SameUpToOrder other)
    (hj : json.HasDistinctKeys) (ho : other.HasDistinctKeys)
    : json.canonical = other.canonical := by
  induction h with
  | refl json => rfl
  | @array items others length _ ih =>
      cases hj with | array hitems =>
      cases ho with | array hothers =>
      rw [canonical_array, canonical_array]
      refine congrArg Json.array (map_eq_map_iff_zip.mpr ⟨length, fun pair hm => ?_⟩)
      obtain ⟨hl, hr⟩ := List.of_mem_zip hm
      exact ih pair hm (hitems _ hl) (hothers _ hr)
  | @object members others arranged order length keys _ ih =>
      -- The arrangement shows that the canonical members are the same up to order.
      cases hj with | object hkeys hmembers =>
      cases ho with | object hkeys' hothers =>
      rw [canonical_object_eq_iff hkeys hkeys', map_perm_map_iff_exists]
      refine ⟨arranged, map_eq_map_iff_zip.mpr ⟨length, fun pair hm => ?_⟩, order⟩
      obtain ⟨hl, hr⟩ := List.of_mem_zip hm
      exact Prod.ext (keys pair hm)
        (ih pair hm (hmembers _ hl) (hothers _ (order.subset hr)))

/-- Only arrays have arrays as their canonical forms. -/
theorem eq_array_of_canonical {json : Json} {items : List Json} (h : json.canonical = .array items)
    : ∃ others, json = .array others ∧ others.map canonical = items := by
  cases json with
  | array others =>
      rw [canonical_array] at h
      exact ⟨others, rfl, Json.array.inj h⟩
  | object members =>
      rw [canonical_object] at h
      cases h
  | _ => cases h

/-- Only objects have objects as their canonical forms. -/
theorem eq_object_of_canonical {json : Json} {members : List (String × Json)}
    (h : json.canonical = .object members)
    : ∃ others, json = .object others := by
  cases json with
  | array items =>
      rw [canonical_array] at h
      cases h
  | object others => exact ⟨others, rfl⟩
  | _ => cases h

/-- Values in which every key stands once differ only in the order of members if their canonical
forms are equal, by induction on the first one. -/
theorem sameUpToOrder_of_canonical_eq {json other : Json} (hj : json.HasDistinctKeys)
    (ho : other.HasDistinctKeys) (h : json.canonical = other.canonical)
    : json.SameUpToOrder other := by
  -- A value without parts is the canonical form of itself only.
  have hatom {json other : Json} (hself : json.canonical = json)
      (harray : ∀ items, json ≠ .array items) (hobject : ∀ members, json ≠ .object members)
      (h : json.canonical = other.canonical) : json.SameUpToOrder other := by
    rw [hself] at h
    cases other with
    | array items => exact absurd (h.trans (canonical_array items)) (harray _)
    | object members => exact absurd (h.trans (canonical_object members)) (hobject _)
    | _ => rw [h]; exact .refl _
  induction json using Json.induction generalizing other with
  | null => exact hatom rfl (by simp) (by simp) h
  | bool value => exact hatom rfl (by simp) (by simp) h
  | number value => exact hatom rfl (by simp) (by simp) h
  | string value => exact hatom rfl (by simp) (by simp) h
  | unreadable => exact hatom rfl (by simp) (by simp) h
  | array items ih =>
      rw [canonical_array] at h
      obtain ⟨others, rfl, hitems⟩ := eq_array_of_canonical h.symm
      cases hj with | array hdistinct =>
      cases ho with | array hdistinct' =>
      obtain ⟨hlength, hsame⟩ := map_eq_map_iff_zip.mp hitems.symm
      refine .array hlength (fun pair hm => ?_)
      obtain ⟨hl, hr⟩ := List.of_mem_zip hm
      exact ih pair.1 hl (hdistinct _ hl) (hdistinct' _ hr) (hsame pair hm)
  | object members ih =>
      -- The other value is an object, too, and can be arranged to match this one.
      have hobject := h
      rw [canonical_object] at hobject
      obtain ⟨others, rfl⟩ := eq_object_of_canonical hobject.symm
      cases hj with | object hkeys hdistinct =>
      cases ho with | object hkeys' hdistinct' =>
      rw [canonical_object_eq_iff hkeys hkeys', map_perm_map_iff_exists] at h
      obtain ⟨arranged, hmembers, horder⟩ := h
      obtain ⟨hlength, hsame⟩ := map_eq_map_iff_zip.mp hmembers
      refine .object horder hlength (fun pair hm => (Prod.mk.inj (hsame pair hm)).1)
        (fun pair hm => ?_)
      obtain ⟨hl, hr⟩ := List.of_mem_zip hm
      exact ih pair.1 hl (hdistinct _ hl) (hdistinct' _ (horder.subset hr))
        (Prod.mk.inj (hsame pair hm)).2

/-- Of values in which every key stands once, exactly those have one canonical form that differ
only in the order of members. -/
theorem canonical_eq_iff {json other : Json} (hj : json.HasDistinctKeys)
    (ho : other.HasDistinctKeys)
    : json.canonical = other.canonical ↔ json.SameUpToOrder other :=
  ⟨sameUpToOrder_of_canonical_eq hj ho, fun h => h.canonical_eq hj ho⟩

-----------------------------------------------------------------------------------------
-- Canonical texts
-----------------------------------------------------------------------------------------

/-- Containers are nested as deep in the canonical form, by induction on the value. -/
theorem HasDistinctKeys.depth_canonical_le_iff {json : Json} (h : json.HasDistinctKeys)
    (opened limit : Nat)
    : opened + json.canonical.depth ≤ limit ↔ opened + json.depth ≤ limit := by
  induction h generalizing opened with
  | null => exact Iff.rfl
  | bool value => exact Iff.rfl
  | number value => exact Iff.rfl
  | string value => exact Iff.rfl
  | unreadable => exact Iff.rfl
  | @array items _ ih =>
      rw [canonical_array, depth_array_le_iff, depth_array_le_iff, List.forall_mem_map]
      exact and_congr_right (fun _ => forall₂_congr (fun item hm => ih item hm _))
  | @object members keys _ ih =>
      rw [← canonicalMember_fst] at keys
      have hentries := SortedMap.perm_ofList keys
      rw [canonical_object, depth_object_le_iff, depth_object_le_iff]
      simp only [hentries.mem_iff, List.forall_mem_map]
      exact and_congr_right (fun _ => forall₂_congr (fun member hm => ih member hm _))

theorem HasDistinctKeys.depth_canonical {json : Json} (h : json.HasDistinctKeys)
    : json.canonical.depth = json.depth := by
  apply Nat.le_antisymm
  · simpa using (h.depth_canonical_le_iff 0 _).mpr (Nat.le_refl _)
  · simpa using (h.depth_canonical_le_iff 0 _).mp (Nat.le_refl _)

/-- Exact values have one canonical text only if they have one canonical form. -/
theorem IsExact.renderCanonical_eq_iff {json other : Json} (hj : json.IsExact) (ho : other.IsExact)
    : json.renderCanonical = other.renderCanonical ↔ json.canonical = other.canonical := by
  constructor
  · intro h
    have hread := hj.canonical.parse?_render
    rw [← renderCanonical, h, renderCanonical, ho.canonical.parse?_render] at hread
    exact (Option.some.inj hread).symm
  · intro h
    rw [renderCanonical, h, renderCanonical]

/-- The canonical text is a normal form. It has no white space outside of string literals, and it
reads back as a value that differs from the one it was written for only in the order of members,
which is ascending in it, and that has the same canonical text. Two values have one canonical text
exactly when they differ only in the order of members. -/
theorem renderCanonical_normalForm {json : Json} (hexact : json.IsExact)
    (hkeys : json.HasDistinctKeys)
    : (∀ c ∈ outsideStrings json.renderCanonical.toList, Text.isBlank c = false)
      ∧ (∃ parsed,
          parse? json.renderCanonical = some parsed
          ∧ read? json.renderCanonical = (if json.depth ≤ depthLimit then some parsed else none)
          ∧ parsed.HasAscendingKeys
          ∧ parsed.SameUpToOrder json
          ∧ parsed.renderCanonical = json.renderCanonical)
      ∧ ∀ other : Json,
          other.IsExact
          → other.HasDistinctKeys
          → (json.renderCanonical = other.renderCanonical ↔ json.SameUpToOrder other) := by
  refine ⟨?_, ⟨json.canonical, ?_, ?_, ?_, ?_, ?_⟩, ?_⟩
  · rw [renderCanonical, render, String.toList_ofList]
    exact hexact.canonical.isBlank_outsideStrings
  · exact hexact.canonical.parse?_render
  · rw [renderCanonical, hexact.canonical.read?_render, hkeys.depth_canonical]
  · exact json.hasAscendingKeys_canonical
  · exact (canonical_eq_iff json.hasAscendingKeys_canonical.hasDistinctKeys hkeys).mp
      json.canonical_canonical
  · rw [renderCanonical, canonical_canonical, renderCanonical]
  · intro other hother hkeys'
    rw [hexact.renderCanonical_eq_iff hother, canonical_eq_iff hkeys hkeys']

/-- A value whose members are out of order at two depths. -/
def scrambled : Json :=
  .object
    [("b", .array [.object [("z", .string "say \"no\""), ("", .null)], .bool true]),
      ("a", .number (.integer (-7)))]

theorem renderCanonical_normalForm_scrambled
    : scrambled.IsExact
      ∧ scrambled.HasDistinctKeys
      ∧ scrambled.renderCanonical
        = "\x7b\"a\":-7,\"b\":[\x7b\"\":null,\"z\":\"say \\\"no\\\"\"\x7d,true]\x7d"
      ∧ (∃ parsed,
          parse? scrambled.renderCanonical = some parsed
          ∧ parsed.HasAscendingKeys
          ∧ parsed.SameUpToOrder scrambled
          ∧ parsed.renderCanonical = scrambled.renderCanonical) := by
  have hexact : scrambled.IsExact := by
    refine .object (List.forall_mem_cons.mpr ⟨.array ?_, List.forall_mem_singleton.mpr ?_⟩)
    · exact List.forall_mem_cons.mpr
        ⟨.object (List.forall_mem_cons.mpr ⟨.string _, List.forall_mem_singleton.mpr .null⟩),
          List.forall_mem_singleton.mpr (.bool true)⟩
    · exact .integer (by decide) (by decide)
  have hkeys : scrambled.HasDistinctKeys := by
    refine .object (by decide)
      (List.forall_mem_cons.mpr ⟨.array ?_, List.forall_mem_singleton.mpr (.number _)⟩)
    exact List.forall_mem_cons.mpr
      ⟨.object (by decide)
          (List.forall_mem_cons.mpr ⟨.string _, List.forall_mem_singleton.mpr .null⟩),
        List.forall_mem_singleton.mpr (.bool true)⟩
  obtain ⟨_, ⟨parsed, hparsed, _, hascending, hsame, htext⟩, _⟩ :=
    renderCanonical_normalForm hexact hkeys
  exact ⟨hexact, hkeys, by decide +kernel, parsed, hparsed, hascending, hsame, htext⟩

end SupplyGraph.Json
