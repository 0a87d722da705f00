import SupplyGraph.Proofs.Entry.Resolution
import SupplyGraph.Proofs.Fault.Paths
import SupplyGraph.Proofs.Vocabulary.Labels
import SupplyGraph.Template.Json

/-!
Where faults are found. The field of a fault leads from the checked value to a part of it, and this
part is to blame: it holds the very name that is not known, or it lacks what the fault says.
-/

namespace SupplyGraph

-----------------------------------------------------------------------------------------
-- Parts that are to blame
-----------------------------------------------------------------------------------------

/-- The value is a text that is trimmed to the name. A missing text is as good as an empty one. -/
def Json.Holds (found : Json) (name : String) : Prop :=
  ∃ text : Option String, found = Json.optional .string text ∧ Text.trim (text.getD "") = name

/-- What the part is like that a fault with this cause points at. A name or a label that is not
known stands there, and the vocabulary has no meaning for it; what is missing is missing there; and
what is not consistent was declared there. -/
def Cause.Blames (vocabulary : Vocabulary) (found : Json) : Cause → Prop
  | unknownEntityType name => found.Holds name ∧ vocabulary.entityType? name = none
  | unknownCommodityType name => found.Holds name ∧ vocabulary.commodityType? name = none
  | unknownRelationship label =>
      found.Holds label ∧ ∀ relationship : Relationship, Labelled.label relationship ≠ label
  | unknownTemplateType label =>
      found.Holds label ∧ ∀ kind : TemplateKind, Labelled.label kind ≠ label
  | missingSoldCommodities | missingCommodityDefs | missingEntityProperties
  | missingProbeProperties .noDefinitions => found = .array []
  | missingCommodityType | missingProvider | missingProbeProperties .unnamedDefinition
  | incompleteHandler .noMethodName => found.Holds ""
  | missingRelationship _ | incompleteHandler .noTargetEntity | incompleteHandler .noHandler
  | incompleteHandler .noEntityType => found = .null
  | invalidCardinality least _ => found = Json.integer least.toInt
  | linkOutOfScope _ buyer _ =>
      ∃ name, found.Holds name ∧ vocabulary.entityType? name = some buyer
  | conflictingLabels _ _ declared => found.Holds (Labelled.label declared)
  | conflictingNodes node _ _ _ =>
      ∃ name, found.Holds name ∧ vocabulary.entityType? name = some node

/-- The field of the fault goes on from the path to a part of the value, which is to blame. -/
def Fault.LocatedIn (vocabulary : Vocabulary) (path : FieldPath) (json : Json) (fault : Fault)
    : Prop :=
  ∃ rest found,
    fault.field = path ++ rest
    ∧ (∀ step ∈ rest, step.isPlain)
    ∧ json.walk? rest = some found
    ∧ fault.cause.Blames vocabulary found

namespace Fault

variable {vocabulary : Vocabulary} {path : FieldPath} {fault : Fault}

/-- A fault with the path itself is located when the whole value is to blame. -/
theorem locatedIn_self {found : Json} {cause : Cause} (h : cause.Blames vocabulary found)
    : LocatedIn vocabulary path found ⟨path, cause⟩ :=
  ⟨[], found, (List.append_nil path).symm, by simp, rfl, h⟩

/-- What is located behind a member is located from the object, one step earlier. -/
theorem LocatedIn.member {members : List (String × Json)} {name : String} {part : Json}
    (h : fault.LocatedIn vocabulary (path.field name) part)
    (hplain : (Step.field name).isPlain) (hpart : members.lookup name = some part)
    : fault.LocatedIn vocabulary path (.object members) := by
  obtain ⟨rest, found, hfield, hrest, hwalk, hblames⟩ := h
  refine ⟨.field name :: rest, found, ?_, List.forall_mem_cons.mpr ⟨hplain, hrest⟩, ?_, hblames⟩
  · rw [hfield, FieldPath.field, List.append_assoc, List.singleton_append]
  · rw [Json.walk?_cons, Json.follow?, hpart, Option.bind_some, hwalk]

/-- What is located behind an item is located from the list, one step earlier. -/
theorem LocatedIn.item {α : Type} {encode : α → Json} {values : List α} {value : α}
    {position : Nat} (h : fault.LocatedIn vocabulary (path.index position) (encode value))
    (hvalue : values[position]? = some value)
    : fault.LocatedIn vocabulary path (.array (values.map encode)) := by
  obtain ⟨rest, found, hfield, hrest, hwalk, hblames⟩ := h
  refine ⟨.index position :: rest, found, ?_, List.forall_mem_cons.mpr ⟨rfl, hrest⟩, ?_, hblames⟩
  · rw [hfield, FieldPath.index, List.append_assoc, List.singleton_append]
  · rw [Json.walk?_cons, Json.follow?, List.getElem?_map, hvalue, Option.map_some,
      Option.bind_some, hwalk]

end Fault

-----------------------------------------------------------------------------------------
-- Names and labels
-----------------------------------------------------------------------------------------

section Names

variable {vocabulary : Vocabulary} {field : FieldPath} {fault : Fault}

theorem holds_optional (text : Option String)
    : (Json.optional .string text).Holds (Text.trim (text.getD "")) :=
  ⟨text, rfl, rfl⟩

theorem holds_string (text : String)
    : (Json.string text).Holds (Text.trim text) :=
  holds_optional (some text)

/-- An unknown reference is blamed on the text that stands there, also when there is none. -/
theorem Vocabulary.locatedIn_of_reference {name : Option String}
    (h : vocabulary.reference field name = .error fault)
    : fault.LocatedIn vocabulary field (Json.optional .string name) := by
  rw [reference, entity] at h
  cases hname : vocabulary.entityType? (Text.trim (name.getD "")) with
  | some entityType => simp [hname] at h
  | none =>
      rw [hname] at h
      obtain rfl := Except.error.inj h
      exact Fault.locatedIn_self ⟨holds_optional name, hname⟩

/-- A commodity is refused where its text is blank or where its text is unknown. -/
theorem Vocabulary.locatedIn_of_commodity {name : Option String}
    (h : vocabulary.commodity field name = .error fault)
    : fault.LocatedIn vocabulary field (Json.optional .string name) := by
  rw [commodity] at h
  split at h
  next hempty =>
    obtain rfl := Except.error.inj h
    exact Fault.locatedIn_self ⟨name, rfl, String.isEmpty_iff.mp hempty⟩
  next =>
    cases hname : vocabulary.commodityType? (Text.trim (name.getD "")) with
    | some commodityType => simp [hname] at h
    | none =>
        simp only [hname] at h
        obtain rfl := Except.error.inj h
        exact Fault.locatedIn_self ⟨holds_optional name, hname⟩

/-- An unknown label is blamed on its text, since no relationship is labelled like it. -/
theorem Relationship.locatedIn_of_ofLabel {label : String}
    (h : ofLabel field label = .error fault)
    : fault.LocatedIn vocabulary field (.string label) := by
  rw [ofLabel] at h
  cases hlabel : (Labelled.parse? label : Option Relationship) with
  | some relationship => simp [hlabel] at h
  | none =>
      rw [hlabel] at h
      obtain rfl := Except.error.inj h
      exact Fault.locatedIn_self ⟨holds_string label, label_ne_of_parse?_eq_none hlabel⟩

theorem TemplateKind.locatedIn_of_ofLabel {label : String}
    (h : ofLabel field label = .error fault)
    : fault.LocatedIn vocabulary field (.string label) := by
  rw [ofLabel] at h
  cases hlabel : (Labelled.parse? label : Option TemplateKind) with
  | some kind => simp [hlabel] at h
  | none =>
      rw [hlabel] at h
      obtain rfl := Except.error.inj h
      exact Fault.locatedIn_self ⟨holds_string label, label_ne_of_parse?_eq_none hlabel⟩

/-- Only a part that is there is checked, so a fault of it is located there. -/
theorem locatedIn_of_checkOptional {α β : Type} {encode : α → Json}
    {check : α → Except Fault β}
    (hcheck
      : ∀ value fault, check value = .error fault → fault.LocatedIn vocabulary field (encode value))
    {value : Option α} (h : checkOptional check value = .error fault)
    : fault.LocatedIn vocabulary field (Json.optional encode value) := by
  cases value with
  | none => cases h
  | some present =>
      rw [checkOptional] at h
      cases hpresent : check present with
      | ok result => simp [hpresent, Except.map] at h
      | error found =>
          rw [hpresent] at h
          obtain rfl := Except.error.inj h
          exact hcheck present found hpresent

end Names

-----------------------------------------------------------------------------------------
-- Lists
-----------------------------------------------------------------------------------------

section Lists

variable {α β : Type} {vocabulary : Vocabulary} {path : FieldPath} {fault : Fault}
  {check : Nat → α → Except Fault β} {encode : α → Json} {items : List α}

/-- A run fails at an item whose check fails at its own position, by induction on the items. -/
theorem Sequence.exists_of_run_eq {start : Nat} {results : List β}
    (h : run check start items = (results, some fault))
    : ∃ later item, items[later]? = some item ∧ check (start + later) item = .error fault := by
  induction items generalizing start results with
  | nil => cases h
  | cons item rest ih =>
      rw [run] at h
      cases hitem : check start item with
      | error found =>
          rw [hitem] at h
          obtain rfl : found = fault := Option.some.inj (Prod.mk.inj h).2
          exact ⟨0, item, rfl, hitem⟩
      | ok result =>
          rw [hitem] at h
          obtain ⟨later, refused, hrefused, hfault⟩ := ih (Prod.ext rfl (Prod.mk.inj h).2)
          refine ⟨later + 1, refused, hrefused, ?_⟩
          rwa [Nat.add_assoc, Nat.add_comm 1] at hfault

/-- A fault that ends a run is located in the list if the checks locate theirs in the items. -/
theorem locatedIn_of_run
    (hcheck
      : ∀ position item fault,
          check position item = .error fault
          → fault.LocatedIn vocabulary (path.index position) (encode item))
    {results : List β} (h : Sequence.run check 0 items = (results, some fault))
    : fault.LocatedIn vocabulary path (.array (items.map encode)) := by
  obtain ⟨position, item, hitem, hfault⟩ := Sequence.exists_of_run_eq h
  rw [Nat.zero_add] at hfault
  exact (hcheck position item fault hfault).item hitem

/-- The fault of a list is that of an item, at the position of the item. -/
theorem locatedIn_of_collect
    (hcheck
      : ∀ position item fault,
          check position item = .error fault
          → fault.LocatedIn vocabulary (path.index position) (encode item))
    (h : Sequence.collect check items = .error fault)
    : fault.LocatedIn vocabulary path (.array (items.map encode)) := by
  rw [Sequence.collect] at h
  split at h
  next => cases h
  next hrun =>
    obtain rfl := Except.error.inj h
    exact locatedIn_of_run hcheck hrun

/-- What a run comes to at a position is what its item there comes to, by induction on the items. -/
theorem Sequence.exists_of_getElem?_run {start position : Nat} {result : β}
    (h : (run check start items).1[position]? = some result)
    : ∃ item, items[position]? = some item ∧ check (start + position) item = .ok result := by
  induction items generalizing start position with
  | nil => cases h
  | cons item rest ih =>
      rw [run] at h
      cases hitem : check start item with
      | error found =>
          rw [hitem] at h
          cases h
      | ok first =>
          rw [hitem] at h
          cases position with
          | zero =>
              obtain rfl : first = result := Option.some.inj h
              exact ⟨item, rfl, hitem⟩
          | succ position =>
              obtain ⟨later, hlater, hresult⟩ := ih h
              refine ⟨later, hlater, ?_⟩
              rwa [Nat.add_assoc, Nat.add_comm 1] at hresult

/-- Each result of a list comes from the item at its own position. -/
theorem Sequence.exists_of_collect_eq_ok {results : List β} {position : Nat} {result : β}
    (h : collect check items = .ok results) (hr : results[position]? = some result)
    : ∃ item, items[position]? = some item ∧ check position item = .ok result := by
  rw [collect] at h
  split at h
  next hrun =>
    obtain rfl := Except.ok.inj h
    have hrow : (run check 0 items).1[position]? = some result := by
      rw [hrun]
      exact hr
    obtain ⟨item, hitem, hresult⟩ := exists_of_getElem?_run hrow
    exact ⟨item, hitem, by rwa [Nat.zero_add] at hresult⟩
  next => cases h

/-- A fold that fails fails at one of the items, by induction on the items. -/
theorem exists_of_foldlM_eq_error {σ ε : Type} {step : σ → α → Except ε σ} {start : σ} {error : ε}
    (h : items.foldlM step start = .error error)
    : ∃ state, ∃ item ∈ items, step state item = .error error := by
  induction items generalizing start with
  | nil => cases h
  | cons item rest ih =>
      rw [List.foldlM_cons, bind_eq_error_iff] at h
      rcases h with hfirst | ⟨next, _, hlater⟩
      · exact ⟨start, item, List.mem_cons_self, hfirst⟩
      · obtain ⟨state, refused, hm, hrefused⟩ := ih hlater
        exact ⟨state, refused, List.mem_cons_of_mem _ hm, hrefused⟩

end Lists

end SupplyGraph
