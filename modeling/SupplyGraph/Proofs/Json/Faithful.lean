import Mathlib.Data.List.Nodup
import SupplyGraph.Node.Json
import SupplyGraph.Proofs.Json.Canonical
import SupplyGraph.Proofs.Vocabulary.Labels

/-!
Faithful encodings. An encoding is faithful when its values are exact and their canonical forms tell
them apart; encodings that are put together from faithful ones are faithful.
-/

namespace SupplyGraph.Json

/-- The values that the encoding gives are exact, and no two of them have one canonical form. -/
structure Faithful {α : Type} (encode : α → Json) : Prop where
  exact (value : α) : (encode value).IsExact
  injective {left right : α} (h : (encode left).canonical = (encode right).canonical)
    : left = right

/-- A faithful encoding tells values apart by their canonical texts. -/
theorem Faithful.renderCanonical_eq_iff {α : Type} {encode : α → Json} (h : Faithful encode)
    {left right : α}
    : (encode left).renderCanonical = (encode right).renderCanonical ↔ left = right := by
  rw [(h.exact left).renderCanonical_eq_iff (h.exact right)]
  exact ⟨h.injective, fun heq => congrArg (fun value => (encode value).canonical) heq⟩

-----------------------------------------------------------------------------------------
-- Values without parts
-----------------------------------------------------------------------------------------

theorem faithful_bool
    : Faithful Json.bool where
  exact value := .bool value
  injective h := Json.bool.inj h

theorem faithful_string
    : Faithful Json.string where
  exact value := .string value
  injective h := Json.string.inj h

/-- A number of 32 bits is well within the range in which numbers are exact. -/
theorem faithful_int32
    : Faithful (fun value : Int32 => integer value.toInt) where
  exact value := by
    have hleast := value.le_toInt
    have hmost := value.toInt_lt
    exact .integer (by omega) (by omega)
  injective h := Int32.toInt_inj.mp (Number.integer.inj (Json.number.inj h))

/-- A value with a label is written as its label, and no two values share one. -/
theorem faithful_ofLabelled {α : Type} [Labelled α] [LawfulLabelled α]
    : Faithful (ofLabelled : α → Json) where
  exact _ := .string _
  injective h := label_injective (Json.string.inj h)

/-- An encoding that never gives null leaves null for a value that is missing. -/
theorem Faithful.optional {α : Type} {encode : α → Json} (h : Faithful encode)
    (hnull : ∀ value, (encode value).canonical ≠ .null)
    : Faithful (Json.optional encode) where
  exact value := by
    cases value with
    | none => exact .null
    | some value => exact h.exact value
  injective {left right} heq := by
    cases left with
    | none =>
        cases right with
        | none => rfl
        | some other => exact absurd heq.symm (hnull other)
    | some value =>
        cases right with
        | none => exact absurd heq (hnull value)
        | some other => rw [h.injective heq]

/-- A text that is missing is told apart from the empty text. -/
theorem faithful_optionalString
    : Faithful (Json.optional Json.string) :=
  faithful_string.optional (fun _ => Json.noConfusion)

theorem faithful_optionalInt32
    : Faithful (Json.optional (fun value : Int32 => integer value.toInt)) :=
  faithful_int32.optional (fun _ => Json.noConfusion)

-----------------------------------------------------------------------------------------
-- Rows and sets
-----------------------------------------------------------------------------------------

/-- Lists are told apart by their lengths and by their items one by one. -/
theorem Faithful.list {α : Type} {encode : α → Json} (h : Faithful encode)
    : Faithful (fun values : List α => .array (values.map encode)) where
  exact values := .array (List.forall_mem_map.mpr (fun value _ => h.exact value))
  injective {left right} heq := by
    rw [canonical_array, canonical_array, Json.array.injEq, List.map_map, List.map_map] at heq
    exact List.map_inj_right (fun _ _ => h.injective) |>.mp heq

/-- A set is written as the list of its values in order, which determines it. -/
theorem Faithful.ofSet {α : Type} [Key α] {encode : α → Json} (h : Faithful encode)
    : Faithful (Json.ofSet encode : SortedSet α → Json) where
  exact set := h.list.exact set.toList
  injective {left right} heq := by
    have hlist := h.list.injective heq
    ext value
    rw [← SortedSet.mem_toList, ← SortedSet.mem_toList, hlist]

-----------------------------------------------------------------------------------------
-- Records and maps
-----------------------------------------------------------------------------------------

/-- Objects with the same row of distinct keys have one canonical form only if their values do,
member by member. -/
theorem canonical_members_eq {members others : List (String × Json)}
    (h : (Json.object members).canonical = (Json.object others).canonical)
    (hkeys : members.map Prod.fst = others.map Prod.fst) (hd : (members.map Prod.fst).Nodup)
    : members.map canonicalMember = others.map canonicalMember := by
  have hd' : (others.map Prod.fst).Nodup := hkeys ▸ hd
  have hperm := (canonical_object_eq_iff hd hd').mp h
  rw [← canonicalMember_fst] at hd
  exact eq_of_perm_of_keys hperm (by rw [canonicalMember_fst, canonicalMember_fst, hkeys]) hd

/-- A map is written with its labels as names. They are distinct, so that the canonical order of the
members loses nothing. -/
theorem Faithful.ofMap {κ α : Type} [Key κ] [Labelled κ] [LawfulLabelled κ] {encode : α → Json}
    (h : Faithful encode)
    : Faithful (Json.ofMap encode : SortedMap κ α → Json) where
  exact map := .object (List.forall_mem_map.mpr (fun entry _ => h.exact entry.2))
  injective {left right} heq := by
    let member (entry : κ × α) : String × Json := (Labelled.label entry.1, encode entry.2)
    have hkeys (map : SortedMap κ α) : ((map.entries.map member).map Prod.fst).Nodup := by
      have hlabel : Function.Injective (Labelled.label : κ → String) := fun _ _ => label_injective
      have hlabels := List.Nodup.map hlabel map.nodup_keys
      rwa [List.map_map] at hlabels ⊢
    have hmember : Function.Injective (canonicalMember ∘ member) := by
      intro entry other hentry
      obtain ⟨hlabel, hvalue⟩ := Prod.mk.inj hentry
      exact Prod.ext (label_injective hlabel) (h.injective hvalue)
    have hperm := (canonical_object_eq_iff (hkeys left) (hkeys right)).mp heq
    rw [List.map_map, List.map_map, List.map_perm_map_iff hmember] at hperm
    exact SortedMap.ext_of_perm hperm

/-- A member of the objects for records: its name, and a part of the record with a faithful
encoding. -/
structure Field (α : Type) : Type 1 where
  name : String
  Part : Type
  part : α → Part
  encode : Part → Json
  faithful : Faithful encode

def Field.member {α : Type} (field : Field α) (value : α) : String × Json :=
  (field.name, field.encode (field.part value))

/-- Objects are a faithful encoding of records that are equal as soon as all parts are. -/
theorem faithful_record {α : Type} (fields : List (Field α)) (hd : (fields.map Field.name).Nodup)
    (hparts
      : ∀ left right : α, (∀ field ∈ fields, field.part left = field.part right) → left = right)
    : Faithful (fun value : α => .object (fields.map (fun field => field.member value))) where
  exact value := .object (List.forall_mem_map.mpr (fun field _ => field.faithful.exact _))
  injective {left right} heq := by
    have hkeys (value : α)
        : (fields.map (fun field => field.member value)).map Prod.fst = fields.map Field.name := by
      rw [List.map_map]
      rfl
    have hmembers := canonical_members_eq heq ((hkeys left).trans (hkeys right).symm)
      (by rwa [hkeys left])
    rw [List.map_map, List.map_map, List.map_inj_left] at hmembers
    refine hparts left right (fun field hm => ?_)
    exact field.faithful.injective (Prod.mk.inj (hmembers field hm)).2

end SupplyGraph.Json
