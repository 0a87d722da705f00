import SupplyGraph.Json.Reader
import SupplyGraph.Json.Value

/-!
Values and their parts. What holds of a value as soon as it holds of its items and members holds of
every value, and what is said of all parts by recursion is said here of each of them.
-/

namespace SupplyGraph

/-- Induction on a value, with the assumption for every item of an array and for the value of every
member of an object. -/
@[elab_as_elim]
theorem Json.induction {p : Json → Prop} (null : p .null) (bool : ∀ value, p (.bool value))
    (number : ∀ value, p (.number value)) (string : ∀ value, p (.string value))
    (array : ∀ items, (∀ item ∈ items, p item) → p (.array items))
    (object : ∀ members, (∀ member ∈ members, p member.2) → p (.object members))
    (unreadable : p .unreadable) (json : Json)
    : p json :=
  @Json.rec p (fun items => ∀ item ∈ items, p item)
    (fun members => ∀ member ∈ members, p member.2) (fun member => p member.2)
    null bool number string array object unreadable
    (fun _ hm => absurd hm List.not_mem_nil)
    (fun _ _ hitem hrest => List.forall_mem_cons.mpr ⟨hitem, hrest⟩)
    (fun _ hm => absurd hm List.not_mem_nil)
    (fun _ _ hmember hrest => List.forall_mem_cons.mpr ⟨hmember, hrest⟩)
    (fun _ _ hvalue => hvalue) json

namespace Json

-----------------------------------------------------------------------------------------
-- Canonical parts
-----------------------------------------------------------------------------------------

/-- The member with its value in canonical form. -/
def canonicalMember (member : String × Json) : String × Json := (member.1, member.2.canonical)

/-- The canonical form of an array is that of its items, in their order. -/
theorem canonical_array (items : List Json)
    : (Json.array items).canonical = .array (items.map canonical) := by
  have hitems : canonicalItems items = items.map canonical := by
    induction items with
    | nil => rfl
    | cons item rest ih => rw [canonicalItems, ih, List.map_cons]
  rw [canonical, hitems]

/-- The canonical form of an object is that of its members, in the order of their names. -/
theorem canonical_object (members : List (String × Json))
    : (Json.object members).canonical
      = .object (SortedMap.ofList (members.map canonicalMember)).entries := by
  have hmembers : canonicalMembers members = members.map canonicalMember := by
    induction members with
    | nil => rfl
    | cons member rest ih => rw [canonicalMembers, ih, List.map_cons, canonicalMember]
  rw [canonical, hmembers]

-----------------------------------------------------------------------------------------
-- Readable parts
-----------------------------------------------------------------------------------------

/-- An array is readable exactly when its items are. -/
theorem isReadable_array (items : List Json)
    : (Json.array items).isReadable ↔ ∀ item ∈ items, item.isReadable := by
  have hitems : areReadable items = items.all isReadable := by
    induction items with
    | nil => rfl
    | cons item rest ih => rw [areReadable, ih, List.all_cons]
  rw [isReadable, hitems, List.all_eq_true]

/-- An object is readable exactly when the values of its members are. -/
theorem isReadable_object (members : List (String × Json))
    : (Json.object members).isReadable ↔ ∀ member ∈ members, member.2.isReadable := by
  have hmembers : membersReadable members = members.all (fun member => member.2.isReadable) := by
    induction members with
    | nil => rfl
    | cons member rest ih => rw [membersReadable, ih, List.all_cons]
  rw [isReadable, hmembers, List.all_eq_true]

-----------------------------------------------------------------------------------------
-- Nested containers
-----------------------------------------------------------------------------------------

mutual

/-- How deep containers are nested in a value. -/
def depth : Json → Nat
  | .array items => itemsDepth items + 1
  | .object members => membersDepth members + 1
  | _ => 0
termination_by structural json => json

def itemsDepth : List Json → Nat
  | [] => 0
  | item :: rest => max item.depth (itemsDepth rest)
termination_by structural items => items

def membersDepth : List (String × Json) → Nat
  | [] => 0
  | (_, value) :: rest => max value.depth (membersDepth rest)
termination_by structural members => members

end

@[simp]
theorem depth_null
    : Json.null.depth = 0 :=
  rfl

@[simp]
theorem depth_bool (value : Bool)
    : (Json.bool value).depth = 0 :=
  rfl

@[simp]
theorem depth_integer (value : Int)
    : (Json.integer value).depth = 0 :=
  rfl

@[simp]
theorem depth_string (value : String)
    : (Json.string value).depth = 0 :=
  rfl

/-- A container is nested one deeper than the deepest of its parts. -/
theorem opened_deepest_le_iff {α : Type} {parts : List α} {size : α → Nat} {deepest : Nat}
    (h : ∀ bound, deepest ≤ bound ↔ ∀ part ∈ parts, size part ≤ bound) {opened limit : Nat}
    : opened + (deepest + 1) ≤ limit
      ↔ opened + 1 ≤ limit ∧ ∀ part ∈ parts, opened + 1 + size part ≤ limit := by
  constructor
  · intro hlimit
    refine ⟨by omega, fun part hm => ?_⟩
    have := (h deepest).mp (Nat.le_refl _) part hm
    omega
  · rintro ⟨hopened, hall⟩
    have := (h (limit - opened - 1)).mpr (fun part hm => by have := hall part hm; omega)
    omega

/-- An array stays within a limit exactly when its bracket does and, behind it, each of its items.
-/
theorem depth_array_le_iff {items : List Json} {opened limit : Nat}
    : opened + (Json.array items).depth ≤ limit
      ↔ opened + 1 ≤ limit ∧ ∀ item ∈ items, opened + 1 + item.depth ≤ limit := by
  have hitems : ∀ bound, itemsDepth items ≤ bound ↔ ∀ item ∈ items, item.depth ≤ bound := by
    intro bound
    induction items with
    | nil => simp [itemsDepth]
    | cons item rest ih => rw [itemsDepth, Nat.max_le, ih, List.forall_mem_cons]
  rw [depth, opened_deepest_le_iff hitems]

/-- An object stays within a limit exactly when its brace does and, behind it, each of its values.
-/
theorem depth_object_le_iff {members : List (String × Json)} {opened limit : Nat}
    : opened + (Json.object members).depth ≤ limit
      ↔ opened + 1 ≤ limit ∧ ∀ member ∈ members, opened + 1 + member.2.depth ≤ limit := by
  have hmembers
      : ∀ bound, membersDepth members ≤ bound ↔ ∀ member ∈ members, member.2.depth ≤ bound := by
    intro bound
    induction members with
    | nil => simp [membersDepth]
    | cons member rest ih => rw [membersDepth, Nat.max_le, ih, List.forall_mem_cons]
  rw [depth, opened_deepest_le_iff hmembers]

/-- In an array as deep as this, the items are one level less deep. -/
theorem depth_array_le_succ_iff {items : List Json} {limit : Nat}
    : (Json.array items).depth ≤ limit + 1 ↔ ∀ item ∈ items, item.depth ≤ limit := by
  have h : 0 + (Json.array items).depth ≤ limit + 1 ↔ _ := depth_array_le_iff
  rw [Nat.zero_add] at h
  rw [h, and_iff_right (by omega)]
  exact forall₂_congr (fun item _ => by omega)

/-- An object takes one level more than the deepest of its values. -/
theorem depth_object_le_succ_iff {members : List (String × Json)} {limit : Nat}
    : (Json.object members).depth ≤ limit + 1 ↔ ∀ member ∈ members, member.2.depth ≤ limit := by
  have h : 0 + (Json.object members).depth ≤ limit + 1 ↔ _ := depth_object_le_iff
  rw [Nat.zero_add] at h
  rw [h, and_iff_right (by omega)]
  exact forall₂_congr (fun member _ => by omega)

/-- A value that is missing is written as null, which takes no level. -/
theorem depth_optional_le_iff {α : Type} {encode : α → Json} {value : Option α} {limit : Nat}
    : (Json.optional encode value).depth ≤ limit
      ↔ ∀ present ∈ value, (encode present).depth ≤ limit := by
  cases value <;> simp [Json.optional]

/-- A list takes one level more than the deepest of its values. -/
theorem depth_list_le_succ_iff {α : Type} {encode : α → Json} {values : List α} {limit : Nat}
    : (Json.array (values.map encode)).depth ≤ limit + 1
      ↔ ∀ value ∈ values, (encode value).depth ≤ limit := by
  rw [depth_array_le_succ_iff, List.forall_mem_map]

end Json

end SupplyGraph
