import Mathlib.Data.List.Nodup
import SupplyGraph.Link.Json
import SupplyGraph.Proofs.Entry.Reading
import SupplyGraph.Proofs.Vocabulary.Labels

/-!
What JSON values stand for. A value is decoded exactly if it stands for something: a label may have
blanks at its ends, the items of a set may stand in any order and be repeated, and what may be
missing may be left out or be null.
-/

namespace SupplyGraph.Json

-----------------------------------------------------------------------------------------
-- Values that stand for something
-----------------------------------------------------------------------------------------

section StandsFor

variable {α : Type}

def IsText (json : Json) (text : String) : Prop := json = .string text

def IsFlag (json : Json) (flag : Bool) : Prop := json = .bool flag

/-- The label of the value, with any blanks at its ends. -/
def IsLabel [Labelled α] (json : Json) (value : α) : Prop :=
  ∃ text, json = .string text ∧ Text.IsPadded (Labelled.label value) text

/-- An array with an item for each of the values, in their order. -/
def IsList (standsFor : Json → α → Prop) (json : Json) (values : List α) : Prop :=
  ∃ items, json = .array items ∧ List.Forall₂ standsFor items values

/-- An array of the members of the set, in any order and any number of times. -/
def IsSet [Key α] (standsFor : Json → α → Prop) (json : Json) (set : SortedSet α) : Prop :=
  ∃ values, IsList standsFor json values ∧ ∀ value, value ∈ set ↔ value ∈ values

/-- An object in which no name of a record is repeated, or an array with an item for every name. -/
inductive IsRecord (names : List String) : Json → Prop where
  | object {members : List (String × Json)}
      (once : ∀ name ∈ names, (members.map Prod.fst).count name ≤ 1)
    : IsRecord names (.object members)
  | array {items : List Json} (complete : items.length = names.length)
    : IsRecord names (.array items)

/-- The part with a name, of a value that stands for a record with these names. -/
def part? (names : List String) : Json → String → Option Json
  | .object members, name => members.lookup name
  | .array items, name => (names.zip items).lookup name
  | _, _ => none

/-- The part is there and stands for the value. -/
def IsPart (standsFor : Json → α → Prop) (part : Option Json) (value : α) : Prop :=
  ∃ json, part = some json ∧ standsFor json value

/-- The part stands for the value, or there is no value, and the part is missing or null. -/
def IsOptionalPart (standsFor : Json → α → Prop) (part : Option Json) (value : Option α) : Prop :=
  Option.Rel standsFor (part.bind nonNull?) value

end StandsFor

-----------------------------------------------------------------------------------------
-- Decoders
-----------------------------------------------------------------------------------------

/-- The decoder reads just the values that stand for something. -/
def Decodes {α : Type} (decode : Json → Option α) (standsFor : Json → α → Prop) : Prop :=
  ∀ json value, decode json = some value ↔ standsFor json value

theorem decodes_string
    : Decodes string? IsText := by
  intro json text
  cases json <;> simp [string?, IsText]

theorem decodes_bool
    : Decodes bool? IsFlag := by
  intro json flag
  cases json <;> simp [bool?, IsFlag]

/-- A label is decoded exactly if it is one of a value, up to blanks at its ends. -/
theorem decodes_labelled {α : Type} [Labelled α] [LawfulLabelled α] [TrimmedLabels α]
    : Decodes (labelled? : Json → Option α) IsLabel := by
  intro json value
  simp only [labelled?, Option.bind_eq_some_iff, decodes_string json,
    Labelled.parse?_eq_some_iff_isPadded]
  rfl

section Containers

variable {α : Type} {decode : Json → Option α} {standsFor : Json → α → Prop}

/-- Nothing but an array has items. -/
theorem items?_eq_some_iff {json : Json} {items : List Json}
    : json.items? = some items ↔ json = .array items := by
  cases json <;> simp [items?]

/-- A list is decoded exactly if each of its items is, in their order. -/
theorem Decodes.list (h : Decodes decode standsFor)
    : Decodes (list? decode) (IsList standsFor) := by
  intro json values
  simp only [list?, Option.bind_eq_bind, Option.bind_eq_some_iff, items?_eq_some_iff]
  refine exists_congr (fun items => and_congr_right (fun _ => ?_))
  constructor
  · intro hvalues
    exact (forall₂_of_mapM hvalues).imp (fun item value => (h item value).mp)
  · intro hitems
    exact mapM_of_forall₂ (hitems.imp (fun item value => (h item value).mpr))

/-- A set is decoded from any list of its members, whatever their order and however often they are
repeated. -/
theorem Decodes.set [Key α] (h : Decodes decode standsFor)
    : Decodes (set? decode) (IsSet standsFor) := by
  intro json set
  simp only [set?, Option.map_eq_some_iff, h.list json]
  refine exists_congr (fun values => and_congr_right (fun _ => ?_))
  constructor
  · rintro rfl value
    exact SortedSet.mem_ofList values value
  · intro hmembers
    ext value
    rw [SortedSet.mem_ofList, hmembers]

end Containers

-----------------------------------------------------------------------------------------
-- Decoders of records
-----------------------------------------------------------------------------------------

section Records

variable {names : List String} {name : String} {json : Json} {found : List (String × Json)}

/-- Members with other names do not matter for what is looked up, by induction on the members. -/
theorem lookup_filter_contains (hn : name ∈ names) (members : List (String × Json))
    : (members.filter (fun member => names.contains member.1)).lookup name
      = members.lookup name := by
  induction members with
  | nil => rfl
  | cons member rest ih =>
      obtain ⟨key, value⟩ := member
      rw [List.filter_cons]
      by_cases hkey : name = key
      · subst hkey
        rw [if_pos (List.contains_iff_mem.mpr hn), List.lookup_cons_self, List.lookup_cons_self]
      · have hne : (name == key) = false := beq_eq_false_iff_ne.mpr hkey
        split <;> simp only [List.lookup_cons, hne, ih]

/-- The keys that are names of the record are distinct if no name is repeated. -/
theorem nodup_keys_filter_iff (names : List String) (members : List (String × Json))
    : ((members.filter (fun member => names.contains member.1)).map Prod.fst).Nodup
      ↔ ∀ name ∈ names, (members.map Prod.fst).count name ≤ 1 := by
  have hkeys
      : (members.filter (fun member => names.contains member.1)).map Prod.fst
        = (members.map Prod.fst).filter (fun key => names.contains key) := by
    rw [List.filter_map]
    rfl
  rw [hkeys, List.nodup_iff_count_le_one]
  constructor
  · intro h name hn
    rw [← List.count_filter (List.contains_iff_mem.mpr hn)]
    exact h name
  · intro h name
    by_cases hn : name ∈ names
    · rw [List.count_filter (List.contains_iff_mem.mpr hn)]
      exact h name hn
    · rw [List.count_eq_zero_of_not_mem (fun hm => hn (by simpa using (List.mem_filter.mp hm).2))]
      exact Nat.zero_le 1

/-- An object has the members with names of the record, if none of these is repeated; an array has
its items as members, if there is one for each name. -/
theorem members?_eq_some_iff
    : json.members? names names.length = some found
      ↔ (∃ members,
            json = .object members
            ∧ (∀ name ∈ names, (members.map Prod.fst).count name ≤ 1)
            ∧ members.filter (fun member => names.contains member.1) = found)
        ∨ ∃ items, json = .array items ∧ items.length = names.length ∧ names.zip items = found := by
  cases json with
  | object members =>
      simp only [members?, known?, Option.ite_none_right_eq_some, Option.some.injEq,
        nodup_keys_filter_iff]
      simp
  | array items => simp [members?, ge_antisymm_iff]
  | _ => simp [members?]

/-- What is found under a name of the record is its part. -/
theorem lookup_of_members? (h : json.members? names names.length = some found) (hn : name ∈ names)
    : found.lookup name = json.part? names name := by
  obtain ⟨members, rfl, _, rfl⟩ | ⟨items, rfl, _, rfl⟩ := members?_eq_some_iff.mp h
  · exact lookup_filter_contains hn members
  · rfl

/-- Exactly the values that stand for a record have members. -/
theorem exists_members?_iff
    : (∃ found, json.members? names names.length = some found) ↔ json.IsRecord names := by
  constructor
  · intro h
    obtain ⟨found, hfound⟩ := h
    obtain ⟨members, rfl, honce, _⟩ | ⟨items, rfl, hcomplete, _⟩ := members?_eq_some_iff.mp hfound
    · exact .object honce
    · exact .array hcomplete
  · intro h
    cases h with
    | object once => exact ⟨_, members?_eq_some_iff.mpr (.inl ⟨_, rfl, once, rfl⟩)⟩
    | array complete => exact ⟨_, members?_eq_some_iff.mpr (.inr ⟨_, rfl, complete, rfl⟩)⟩

/-- A member is decoded exactly if the part with its name is there and stands for something. -/
theorem Decodes.member? {α : Type} {decode : Json → Option α} {standsFor : Json → α → Prop}
    (h : Decodes decode standsFor) (hf : json.members? names names.length = some found)
    (hn : name ∈ names) {value : α}
    : Json.member? found name decode = some value
      ↔ IsPart standsFor (json.part? names name) value := by
  simp only [Json.member?, lookup_of_members? hf hn, Option.bind_eq_some_iff, h _ value]
  rfl

/-- A member that may be missing is decoded as missing if it is left out or null. -/
theorem Decodes.optionalMember? {α : Type} {decode : Json → Option α} {standsFor : Json → α → Prop}
    (h : Decodes decode standsFor) (hf : json.members? names names.length = some found)
    (hn : name ∈ names) {value : Option α}
    : Json.optionalMember? found name decode = some value
      ↔ IsOptionalPart standsFor (json.part? names name) value := by
  rw [Json.optionalMember?, lookup_of_members? hf hn, IsOptionalPart]
  cases (json.part? names name).bind nonNull? with
  | none => cases value <;> simp
  | some part => cases value <;> simp [h part]

/-- A record is decoded from its parts. -/
theorem decodes_record {α : Type} {body : List (String × Json) → Option α}
    {standsFor : Json → α → Prop}
    (hrecord : ∀ json value, standsFor json value → json.IsRecord names)
    (hbody
      : ∀ json found value,
          json.members? names names.length = some found
          → json.IsRecord names
          → (body found = some value ↔ standsFor json value))
    : Decodes (fun json => json.members? names names.length >>= body) standsFor := by
  intro json value
  simp only [Option.bind_eq_bind, Option.bind_eq_some_iff]
  constructor
  · intro h
    obtain ⟨found, hfound, hvalue⟩ := h
    exact (hbody json found value hfound (exists_members?_iff.mp ⟨found, hfound⟩)).mp hvalue
  · intro h
    obtain ⟨found, hfound⟩ := exists_members?_iff.mpr (hrecord json value h)
    exact ⟨found, hfound, (hbody json found value hfound (hrecord json value h)).mpr h⟩

end Records

-----------------------------------------------------------------------------------------
-- Encoders
-----------------------------------------------------------------------------------------

/-- The value that something is written as stands for it. -/
def Encodes {α : Type} (encode : α → Json) (standsFor : Json → α → Prop) : Prop :=
  ∀ value, standsFor (encode value) value

theorem encodes_string
    : Encodes Json.string IsText := fun _ => rfl

theorem encodes_bool
    : Encodes Json.bool IsFlag := fun _ => rfl

/-- A label is written without blanks around it, which is one way to write it. -/
theorem encodes_ofLabelled {α : Type} [Labelled α]
    : Encodes (ofLabelled : α → Json) IsLabel :=
  fun value => ⟨Labelled.label value, rfl, Text.isPadded_refl (Labelled.label value)⟩

section EncodedParts

variable {α : Type} {encode : α → Json} {standsFor : Json → α → Prop}

/-- A list is written item by item, in its order. -/
theorem Encodes.list (h : Encodes encode standsFor)
    : Encodes (fun values => .array (values.map encode)) (IsList standsFor) := by
  intro values
  refine ⟨values.map encode, rfl, ?_⟩
  rw [List.forall₂_map_left_iff, List.forall₂_same]
  exact fun value _ => h value

/-- A set is written as the list of its members, each of them once. -/
theorem Encodes.set [Key α] (h : Encodes encode standsFor)
    : Encodes (ofSet encode) (IsSet standsFor) :=
  fun set => ⟨set.toList, h.list set.toList, fun _ => Iff.rfl⟩

/-- A part that is written stands for the value that it was written for. -/
theorem Encodes.part (h : Encodes encode standsFor) (value : α)
    : IsPart standsFor (some (encode value)) value := ⟨encode value, rfl, h value⟩

/-- A missing value is written as null, which no value is written as. -/
theorem Encodes.optionalPart (h : Encodes encode standsFor)
    (hnull : ∀ value, (encode value).nonNull? = some (encode value)) (value : Option α)
    : IsOptionalPart standsFor (some (Json.optional encode value)) value := by
  cases value with
  | none => exact .none
  | some value =>
      rw [IsOptionalPart, Json.optional, Option.bind_some, hnull]
      exact .some (h value)

/-- An object with one member for each name is a record. -/
theorem isRecord_object {names : List String} {members : List (String × Json)}
    (h : members.map Prod.fst = names) (hd : names.Nodup)
    : IsRecord names (.object members) := by
  refine .object (fun name _ => ?_)
  rw [h]
  exact List.nodup_iff_count_le_one.mp hd name

end EncodedParts

end SupplyGraph.Json
