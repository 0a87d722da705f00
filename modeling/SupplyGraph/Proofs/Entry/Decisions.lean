import SupplyGraph.Proofs.Entry.Checks
import SupplyGraph.Proofs.Entry.Purchases

/-!
What checks decide. A list of checks decides the outcome of a part of an entry when the first of
them that fails reports the fault of the part; what an entry sells and buys is decided by its
checks.
-/

namespace SupplyGraph

open Check

/-- The fault of an outcome that has one. -/
def faultOf? {ε α : Type} : Except ε α → Option ε
  | .ok _ => none
  | .error fault => some fault

/-- A result that a fault, if there is one, makes worthless. -/
def outcomeOf {ε α : Type} : α × Option ε → Except ε α
  | (result, none) => .ok result
  | (_, some fault) => .error fault

/-- A step in place fails with the fault that it reports. -/
theorem faultOf?_outcomeOf {ε α : Type} (result : α × Option ε)
    : faultOf? (outcomeOf result) = result.2 := by
  obtain ⟨_, fault⟩ := result
  cases fault <;> rfl

/-- A step in place succeeds exactly when it reports no fault. -/
theorem outcomeOf_eq_ok_iff {ε α : Type} {result : α × Option ε} {value : α}
    : outcomeOf result = .ok value ↔ result = (value, none) := by
  obtain ⟨_, fault⟩ := result
  cases fault <;> simp [outcomeOf]

theorem Sequence.collect_eq_outcomeOf {ε α β : Type} (check : Nat → α → Except ε β)
    (items : List α)
    : Sequence.collect check items = outcomeOf (Sequence.run check 0 items) := by
  rw [Sequence.collect]
  cases Sequence.run check 0 items with
  | mk results fault => cases fault <;> rfl

/-- Checks decide an outcome when the first of them that fails reports its fault, and when none of
them fails if there is a result. -/
def Decides {α : Type} (checks : List Check) (outcome : Except Fault α) : Prop :=
  checks.findSome? Check.fault? = faultOf? outcome

-----------------------------------------------------------------------------------------
-- Checks one after the other
-----------------------------------------------------------------------------------------

namespace Decides

variable {α β : Type} {checks first second : List Check}

theorem ok (value : α) : Decides [] (.ok value) := rfl

/-- What follows is decided by the checks that follow, which may use that the first ones pass. -/
theorem bind {outcome : Except Fault α} {next : α → Except Fault β} (h : Decides first outcome)
    (hn : ∀ value, outcome = .ok value → Decides second (next value))
    : Decides (first ++ second) (outcome >>= next) := by
  rw [Decides] at h
  rw [Decides, List.findSome?_append, h]
  cases outcome with
  | error fault => rfl
  | ok value => exact hn value rfl

/-- A change of the value needs no check. -/
theorem bind_pure {outcome : Except Fault α} (h : Decides checks outcome) (change : α → β)
    : Decides checks (outcome >>= fun value => pure (change value)) := by
  have hall := h.bind (fun value _ => ok (change value))
  rwa [List.append_nil] at hall

/-- A check that fails decides for its fault, whatever is behind it. -/
theorem failing {check : Check} {cause : Cause} (h : check.failure = some cause)
    (second : List Check)
    : Decides (check :: second) (.error ⟨check.field, cause⟩ : Except Fault α) := by
  rw [Decides, List.findSome?_cons, Check.fault?, h]
  rfl

/-- A check that passes has no say. -/
theorem passing {check : Check} {outcome : Except Fault α} (h : check.failure = none)
    (hn : Decides second outcome)
    : Decides (check :: second) outcome := by
  rw [Decides, List.findSome?_cons, Check.fault?, h]
  exact hn

/-- The faults of items are found in turn, by induction on the items. -/
theorem run {checks : Nat → α → List Check} {check : Nat → α → Except Fault β}
    (h : ∀ position item, Decides (checks position item) (check position item)) (position : Nat)
    (items : List α)
    : ((items.zipIdx position).flatMap
          (fun (item, position) => checks position item)).findSome? Check.fault?
      = (Sequence.run check position items).2 := by
  induction items generalizing position with
  | nil => rfl
  | cons item rest ih =>
      have hitem := h position item
      rw [Decides] at hitem
      rw [List.zipIdx_cons, List.flatMap_cons, List.findSome?_append, hitem, ih, Sequence.run]
      cases check position item <;> rfl

/-- The items of a list are checked in turn, each of them at its own position. -/
theorem collect {checks : Nat → α → List Check} {check : Nat → α → Except Fault β}
    (h : ∀ position item, Decides (checks position item) (check position item)) (items : List α)
    : Decides (inTurn checks items) (Sequence.collect check items) := by
  rw [Decides, inTurn, run h, Sequence.collect_eq_outcomeOf, faultOf?_outcomeOf]

/-- What is decided is refused exactly with what the first failing check reports. -/
theorem eq_error_iff {outcome : Except Fault α} (h : Decides checks outcome) {field : FieldPath}
    {cause : Cause}
    : outcome = .error ⟨field, cause⟩ ↔ FirstFailure checks field cause := by
  have hfault : outcome = .error ⟨field, cause⟩ ↔ faultOf? outcome = some ⟨field, cause⟩ := by
    cases outcome <;> simp [faultOf?]
  rw [hfault, ← h, List.findSome?_eq_some_iff]
  simp only [FirstFailure, Check.fault?, Option.map_eq_none_iff, Option.map_eq_some_iff,
    Fault.mk.injEq]
  constructor
  · intro hi
    obtain ⟨before, check, after, hchecks, ⟨_, hcause, hfield, rfl⟩, hbefore⟩ := hi
    exact ⟨before, check, after, hchecks, hbefore, hcause, hfield⟩
  · intro hi
    obtain ⟨before, check, after, hchecks, hbefore, hcause, hfield⟩ := hi
    exact ⟨before, check, after, hchecks, ⟨cause, hcause, hfield, rfl⟩, hbefore⟩

/-- What is decided is refused exactly when one of the checks fails. -/
theorem exists_error_iff {outcome : Except Fault α} (h : Decides checks outcome)
    : (∃ fault, outcome = .error fault) ↔ ∃ check ∈ checks, check.failure ≠ none := by
  have hfault : (∃ fault, outcome = .error fault) ↔ faultOf? outcome ≠ none := by
    cases outcome <;> simp [faultOf?]
  rw [hfault, ← h, ne_eq, List.findSome?_eq_none_iff]
  simp only [Check.fault?, Option.map_eq_none_iff, not_forall, exists_prop]

end Decides

-----------------------------------------------------------------------------------------
-- Labels behind others
-----------------------------------------------------------------------------------------

/-- A label behind others of which no two contradict each other is in conflict exactly with the
first of them that it contradicts. -/
theorem Labels.conflict?_firsts {pairs : List (EntityType × Relationship)} (h : SingleValued pairs)
    (stated : EntityType × Relationship)
    : Labels.conflict? (SortedMap.firsts pairs) stated.1 stated.2
      = contradiction? pairs stated := by
  obtain ⟨provider, declared⟩ := stated
  rw [contradiction?]
  cases hf : pairs.find? (fun other => other.1 = provider ∧ other.2 ≠ declared) with
  | none =>
      refine Labels.conflict?_eq_none_iff.mpr (fun existing hexisting => ?_)
      have hm := (SortedMap.find?_firsts_eq_some_iff h _ _).mp hexisting
      have hother := List.find?_eq_none.mp hf _ hm
      simpa using hother
  | some other =>
      obtain ⟨hsame, hdiffers⟩ : other.1 = provider ∧ other.2 ≠ declared := by
        simpa using List.find?_some hf
      obtain ⟨_, existing⟩ := other
      obtain rfl : _ = provider := hsame
      have hexisting :=
        (SortedMap.find?_firsts_eq_some_iff h _ _).mpr (List.mem_of_find?_eq_some hf)
      rw [Labels.conflict?, hexisting]
      exact if_neg hdiffers

-----------------------------------------------------------------------------------------
-- Names and labels
-----------------------------------------------------------------------------------------

variable (vocabulary : Vocabulary)

theorem decides_reference (field : FieldPath) (name : Option String)
    : Decides [knownEntity vocabulary field name] (vocabulary.reference field name) := by
  rw [Vocabulary.reference, Vocabulary.entity, knownEntity, Vocabulary.entityNamed?]
  cases vocabulary.entityType? (Text.trim (name.getD "")) <;> rfl

/-- A commodity is checked for a name and then for what the name means. -/
theorem decides_commodity (field : FieldPath) (name : Option String)
    : Decides (knownCommodity vocabulary field name) (vocabulary.commodity field name) := by
  rw [Vocabulary.commodity, knownCommodity, nonBlank?]
  by_cases hb : (Text.trim (name.getD "")).isEmpty
  · simp only [hb, if_true]
    exact Decides.failing rfl _
  · simp only [hb]
    refine Decides.passing rfl ?_
    cases vocabulary.commodityType? (Text.trim (name.getD "")) <;> rfl

theorem decides_relationship (field : FieldPath) (label : String)
    : Decides [knownLabel Relationship field .unknownRelationship (some label)]
        (Relationship.ofLabel field label) := by
  rw [knownLabel, readOptional?, Relationship.ofLabel]
  cases (Labelled.parse? label : Option Relationship) <;> rfl

theorem decides_templateKind (field : FieldPath) (label : String)
    : Decides [knownLabel TemplateKind field .unknownTemplateType (some label)]
        (TemplateKind.ofLabel field label) := by
  rw [knownLabel, readOptional?, TemplateKind.ofLabel]
  cases (Labelled.parse? label : Option TemplateKind) <;> rfl

/-- A part that may be missing is decided like the part. -/
theorem decides_checkOptional {α β : Type} (checks : Option α → List Check)
    {check : α → Except Fault β} (hnone : (checks none).findSome? Check.fault? = none)
    (h : ∀ value, Decides (checks (some value)) (check value)) (part : Option α)
    : Decides (checks part) (checkOptional check part) := by
  cases part with
  | none => exact hnone
  | some value =>
      have hvalue := h value
      rw [Decides] at hvalue ⊢
      rw [hvalue, checkOptional]
      cases check value <;> rfl

-----------------------------------------------------------------------------------------
-- What an entry sells and buys
-----------------------------------------------------------------------------------------

theorem decides_resolve (list : FieldPath) (position : Nat) (commodity : Template.Commodity)
    : Decides
        (knownCommodity vocabulary ((list.index position).field "commodityType")
          commodity.commodityType)
        (commodity.resolve vocabulary list position) :=
  decides_commodity vocabulary _ _

/-- The sold commodities are refused as a whole if there are none. -/
theorem decides_soldOf (sold : List Template.Commodity)
    : Decides
        (nonEmpty [.field "commoditySold"] .missingSoldCommodities
          (fun position commodity =>
            knownCommodity vocabulary
              ((FieldPath.index [.field "commoditySold"] position).field "commodityType")
              commodity.commodityType)
          sold)
        (Trade.soldOf vocabulary sold) := by
  cases sold with
  | nil => exact Decides.failing rfl _
  | cons commodity rest =>
      rw [Trade.soldOf, if_neg (by simp)]
      refine Decides.passing rfl (Decides.collect (fun position commodity => ?_) _)
      exact (decides_resolve vocabulary _ position commodity).bind_pure _

/-- A provider is checked for a class that is not blank and then for what it means. -/
theorem decides_provider? (path : FieldPath) (reference : Template.ProviderRef)
    : Decides (reference.classChecks vocabulary path)
        (Purchase.provider? vocabulary path reference) := by
  rw [Purchase.provider?, Template.ProviderRef.classChecks, nonBlank?]
  by_cases hb : (Text.trim (reference.templateClass.getD "")).isEmpty
  · simp only [hb, if_true]
    exact Decides.failing rfl _
  · simp only [hb]
    exact Decides.passing rfl (decides_reference vocabulary _ _)

/-- The label of a group is checked for being there and then for what it means. -/
theorem decides_relationship? (path : FieldPath) (provider : EntityType)
    (reference : Template.ProviderRef)
    : Decides (reference.labelChecks path (some provider))
        (Purchase.relationship? path provider reference) := by
  rw [Purchase.relationship?, Template.ProviderRef.labelChecks]
  cases reference.providerType with
  | none => exact Decides.failing rfl _
  | some label => exact Decides.passing rfl (decides_relationship _ label)

/-- The only check of two bounds is whether the upper one is below the lower one. -/
theorem decides_ofBounds (path : FieldPath) (reference : Template.ProviderRef)
    : Decides [reference.boundsCheck path]
        (Cardinality.ofBounds (path.field "cardinalityMin") reference.cardinalityMin
          reference.cardinalityMax) := by
  obtain ⟨_, _, least, most⟩ := reference
  cases least with
  | none => cases most <;> rfl
  | some least =>
      cases most with
      | none => rfl
      | some most =>
          simp only [Cardinality.ofBounds, Template.ProviderRef.boundsCheck,
            Option.bind_eq_bind, Option.bind_some]
          by_cases h : most < least
          · simp only [if_pos h]
            exact Decides.failing rfl _
          · simp only [if_neg h]
            exact Decides.passing rfl (Decides.ok _)

/-- A group is checked for its provider, its label, its bounds and its commodities, in this order.
-/
theorem decides_ofGroup (position : Nat) (group : Template.BoughtGroup)
    : Decides (group.checks vocabulary position) (Purchase.ofGroup vocabulary position group) := by
  rw [Purchase.ofGroup]
  simp only [Template.BoughtGroup.checks, List.append_assoc, List.cons_append, List.nil_append]
  cases group.key with
  | none => exact Decides.failing rfl _
  | some reference =>
      refine Decides.passing rfl ?_
      simp only [Option.getD_some]
      refine (decides_provider? vocabulary _ reference).bind (fun provider hprovider => ?_)
      have hnamed : reference.provider? vocabulary = some provider := by
        rw [Template.ProviderRef.provider?, ← Purchase.toOption_provider?, hprovider]
        rfl
      rw [hnamed]
      refine (decides_relationship? _ provider reference).bind (fun relationship _ => ?_)
      refine (decides_ofBounds _ reference).bind (fun cardinality _ => ?_)
      exact (Decides.collect (decides_resolve vocabulary _) group.value).bind_pure _

variable {vocabulary} in
/-- The label that a bought group states is the one of the purchase that it stands for. -/
theorem stated?_of_declared? {group : Template.BoughtGroup} {purchase : Purchase}
    (h : Purchase.declared? vocabulary group = some purchase)
    : group.stated? vocabulary = some purchase.label := by
  simp only [Purchase.declared?, Option.bind_eq_bind, Option.bind_eq_some_iff, Option.pure_def,
    Option.some.injEq] at h
  obtain ⟨reference, hkey, provider, hprovider, relationship, hrelationship, _, _, _, _, rfl⟩ := h
  have hnamed : reference.provider? vocabulary = some provider :=
    Option.bind_eq_some_iff.mpr hprovider
  simp only [Template.BoughtGroup.stated?, hnamed, hkey, Option.bind_eq_bind, Option.bind_some,
    Option.bind_eq_some_iff]
  exact ⟨relationship, hrelationship, rfl⟩

variable {vocabulary} in
/-- The groups state the labels of their purchases, by induction on the groups. -/
theorem filterMap_stated? {groups : List Template.BoughtGroup} {purchases : List Purchase}
    (h : groups.mapM (Purchase.declared? vocabulary) = some purchases)
    : groups.filterMap (Template.BoughtGroup.stated? vocabulary)
      = purchases.map Purchase.label := by
  induction groups generalizing purchases with
  | nil =>
      obtain rfl : [] = purchases := by simpa using h
      rfl
  | cons group rest ih =>
      simp only [List.mapM_cons, Option.bind_eq_bind, Option.bind_eq_some_iff, Option.pure_def,
        Option.some.injEq] at h
      obtain ⟨purchase, hp, later, hl, rfl⟩ := h
      rw [List.filterMap_cons_some (stated?_of_declared? hp), ih hl, List.map_cons]

/-- A purchase is added when its label is that of the purchases before it, and else refused. -/
theorem decides_add {done : List Purchase} (h : SingleValued (done.map Purchase.label))
    {groups : List Template.BoughtGroup}
    (hdone : groups.mapM (Purchase.declared? vocabulary) = some done)
    {group : Template.BoughtGroup} {purchase : Purchase}
    (hp : Purchase.declared? vocabulary group = some purchase) (position : Nat)
    : Decides [group.agreement vocabulary groups position]
        ((Provision.gathered done).add position purchase) := by
  rw [Template.BoughtGroup.agreement, stated?_of_declared? hp,
    filterMap_stated? hdone, Option.bind_some, ← Labels.conflict?_firsts h,
    Provision.add, Labels.declare]
  cases hc : (Provision.gathered done).labels.conflict? purchase.provider purchase.relationship with
  | some cause => exact Decides.failing hc _
  | none =>
      refine Decides.passing hc ?_
      change Decides [] (if _ then _ else _)
      split <;> exact Decides.ok _

/-- Purchases behind others are gathered as their agreement with those before them allows, by
induction on the groups that are still to be gathered. -/
theorem decides_foldlM_add {whole done rest : List Template.BoughtGroup}
    (hwhole : whole = done ++ rest) {gathered purchases : List Purchase}
    (h : SingleValued (gathered.map Purchase.label))
    (hdone : done.mapM (Purchase.declared? vocabulary) = some gathered)
    (hrest : rest.mapM (Purchase.declared? vocabulary) = some purchases)
    : Decides
        ((rest.zipIdx done.length).flatMap (fun (group, position) =>
          [group.agreement vocabulary (whole.take position) position]))
        ((purchases.zipIdx done.length).foldlM
          (fun provision (purchase, position) => provision.add position purchase)
          (Provision.gathered gathered)) := by
  induction rest generalizing done gathered purchases with
  | nil =>
      obtain rfl : [] = purchases := by simpa using hrest
      exact Decides.ok _
  | cons group rest ih =>
      simp only [List.mapM_cons, Option.bind_eq_bind, Option.bind_eq_some_iff, Option.pure_def,
        Option.some.injEq] at hrest
      obtain ⟨purchase, hp, later, hl, rfl⟩ := hrest
      rw [List.zipIdx_cons, List.flatMap_cons, List.zipIdx_cons, List.foldlM_cons]
      have hbefore : whole.take done.length = done := by rw [hwhole, List.take_left]
      simp only [hbefore]
      refine (decides_add vocabulary h hdone hp _).bind (fun provision hprovision => ?_)
      obtain ⟨hnone, rfl⟩ := Provision.add_eq_ok_iff.mp hprovision
      have hs := (Provision.conflict?_gathered_eq_none_iff h).mp hnone
      rw [← Provision.gathered_concat hs]
      have hnext
          : (done ++ [group]).mapM (Purchase.declared? vocabulary)
            = some (gathered ++ [purchase]) :=
        mapM_append_eq_some_iff.mpr ⟨gathered, [purchase], hdone, by simp [hp], rfl⟩
      have hrow := ih (by rw [hwhole, List.append_assoc]; rfl) hs hnext hl
      rwa [List.length_append] at hrow

/-- Every group is checked against the labels of the groups before it. -/
theorem decides_ofPurchases {groups : List Template.BoughtGroup} {purchases : List Purchase}
    (h : groups.mapM (Purchase.declared? vocabulary) = some purchases)
    : Decides
        (inTurn
          (fun position group => [group.agreement vocabulary (groups.take position) position])
          groups)
        (Provision.ofPurchases purchases) :=
  @decides_foldlM_add vocabulary groups [] groups rfl [] purchases singleValued_nil rfl h

end SupplyGraph
