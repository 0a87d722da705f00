import SupplyGraph.Link.Rule
import SupplyGraph.Trade

/-!
What the parts of an entry stand for once their names are resolved. Where a part stands has a say
in the fault that it is refused with, but never in what it comes to.
-/

namespace SupplyGraph

-----------------------------------------------------------------------------------------
-- Outcomes with and without the fault
-----------------------------------------------------------------------------------------

section Outcome

variable {ε α β : Type}

@[simp]
theorem toOption_ok (value : α)
    : (Except.ok value : Except ε α).toOption = some value := rfl

@[simp]
theorem toOption_error (fault : ε)
    : (Except.error fault : Except ε α).toOption = none := rfl

@[simp]
theorem toOption_pure (value : α)
    : (pure value : Except ε α).toOption = pure value := rfl

/-- The value of two steps is that of the second one on the value of the first. -/
@[simp]
theorem toOption_bind (outcome : Except ε α) (next : α → Except ε β)
    : (outcome >>= next).toOption = outcome.toOption >>= fun value => (next value).toOption := by
  cases outcome <;> rfl

@[simp]
theorem toOption_map (change : α → β) (outcome : Except ε α)
    : (outcome.map change).toOption = outcome.toOption.map change := by
  cases outcome <;> rfl

/-- Nothing but the fault is lost: a value is there exactly when the outcome is that value. -/
theorem toOption_eq_some_iff {outcome : Except ε α} {value : α}
    : outcome.toOption = some value ↔ outcome = .ok value := by
  cases outcome <;> simp

theorem pure_eq_ok_iff {value other : α}
    : (pure value : Except ε α) = .ok other ↔ value = other :=
  ⟨Except.ok.inj, congrArg Except.ok⟩

/-- Two steps succeed exactly when the first one does and the second one does on what it gives. -/
theorem bind_eq_ok_iff {outcome : Except ε α} {next : α → Except ε β} {value : β}
    : outcome >>= next = .ok value ↔ ∃ middle, outcome = .ok middle ∧ next middle = .ok value := by
  cases outcome with
  | ok middle =>
      constructor
      · intro h
        exact ⟨middle, rfl, h⟩
      · intro hi
        obtain ⟨_, he, h⟩ := hi
        cases he
        exact h
  | error fault =>
      constructor
      · intro h
        exact absurd h (by nofun)
      · intro hi
        obtain ⟨_, he, _⟩ := hi
        exact absurd he (by nofun)

/-- Two steps fail with the fault of the first one, or else with that of the second one on what the
first gives. -/
theorem bind_eq_error_iff {outcome : Except ε α} {next : α → Except ε β} {fault : ε}
    : outcome >>= next = .error fault
      ↔ outcome = .error fault ∨ ∃ middle, outcome = .ok middle ∧ next middle = .error fault := by
  cases outcome with
  | ok middle =>
      constructor
      · intro h
        exact Or.inr ⟨middle, rfl, h⟩
      · intro hi
        rcases hi with h | ⟨_, he, h⟩
        · exact absurd h (by nofun)
        · cases he
          exact h
  | error first =>
      constructor
      · intro h
        exact Or.inl (congrArg Except.error (Except.error.inj h))
      · intro hi
        rcases hi with h | ⟨_, he, _⟩
        · exact congrArg Except.error (Except.error.inj h)
        · exact absurd he (by nofun)

theorem map_eq_ok_iff {outcome : Except ε α} {change : α → β} {value : β}
    : outcome.map change = .ok value ↔ ∃ middle, outcome = .ok middle ∧ change middle = value := by
  cases outcome <;> simp [Except.map]

/-- A change of the value neither adds a fault nor alters one. -/
theorem map_eq_error_iff {outcome : Except ε α} {change : α → β} {fault : ε}
    : outcome.map change = .error fault ↔ outcome = .error fault := by
  cases outcome <;> simp [Except.map]

end Outcome

-----------------------------------------------------------------------------------------
-- Parts that may be missing and lists of parts
-----------------------------------------------------------------------------------------

section Reading

variable {α β : Type}

/-- A name that is not blank, without the blanks around it. -/
def nonBlank? (name : Option String) : Option String :=
  let name := Text.trim (name.getD "")
  if name.isEmpty then none else some name

/-- What a part that may be missing stands for. -/
def readOptional? (read : α → Option β) : Option α → Option (Option β)
  | none => some none
  | some value => (read value).map some

/-- What the items of a list stand for that has at least one. -/
def readNonempty? (read : α → Option β) (items : List α) : Option (List β) :=
  if items.isEmpty then none else items.mapM read

/-- Two lists are read one after the other: both must stand for something, and the results stand in
the same order. -/
theorem mapM_append_eq_some_iff {read : α → Option β} {front back : List α} {results : List β}
    : (front ++ back).mapM read = some results
      ↔ ∃ first second,
          front.mapM read = some first
          ∧ back.mapM read = some second
          ∧ first ++ second = results := by
  simp only [List.mapM_append, Option.bind_eq_bind, Option.bind_eq_some_iff, Option.pure_def,
    Option.some.injEq]
  constructor
  · intro h
    obtain ⟨first, hf, second, hs, hr⟩ := h
    exact ⟨first, second, hf, hs, hr⟩
  · intro h
    obtain ⟨first, second, hf, hs, hr⟩ := h
    exact ⟨first, hf, second, hs, hr⟩

/-- Every result comes from an item, by induction on the items. -/
theorem exists_mem_of_mapM {read : α → Option β} {items : List α} {results : List β}
    (h : items.mapM read = some results) {result : β} (hm : result ∈ results)
    : ∃ item ∈ items, read item = some result := by
  induction items generalizing results with
  | nil =>
      obtain rfl : [] = results := by simpa using h
      exact absurd hm List.not_mem_nil
  | cons item rest ih =>
      simp only [List.mapM_cons, Option.bind_eq_bind, Option.bind_eq_some_iff, Option.pure_def,
        Option.some.injEq] at h
      obtain ⟨first, hf, later, hl, rfl⟩ := h
      rcases List.mem_cons.mp hm with rfl | hm
      · exact ⟨item, List.mem_cons_self, hf⟩
      · obtain ⟨found, hfound, hr⟩ := ih hl hm
        exact ⟨found, List.mem_cons_of_mem _ hfound, hr⟩

/-- Two lists that are not empty are read together like one after the other. -/
theorem readNonempty?_append_eq_some_iff {read : α → Option β} {front back : List α}
    (hf : front ≠ []) (hb : back ≠ []) {results : List β}
    : readNonempty? read (front ++ back) = some results
      ↔ ∃ first second,
          readNonempty? read front = some first
          ∧ readNonempty? read back = some second
          ∧ first ++ second = results := by
  simp only [readNonempty?, List.isEmpty_iff, List.append_eq_nil_iff, hf, hb, and_self, if_false,
    mapM_append_eq_some_iff]

/-- A run has no fault exactly when every item stands for something, by induction on the items. -/
theorem Sequence.run_eq_iff {check : Nat → α → Except Fault β} {read : α → Option β}
    (h : ∀ position item, (check position item).toOption = read item) (position : Nat)
    (items : List α) (results : List β)
    : Sequence.run check position items = (results, none) ↔ items.mapM read = some results := by
  induction items generalizing position results with
  | nil => simp [Sequence.run, eq_comm]
  | cons item rest ih =>
      rw [List.mapM_cons, ← h position item]
      cases hc : check position item with
      | error fault => simp [Sequence.run, hc]
      | ok result =>
          have hrest := ih (position + 1)
          cases hr : Sequence.run check (position + 1) rest with
          | mk later fault =>
              rw [hr] at hrest
              cases fault with
              | none => simp [Sequence.run, hc, hr, (hrest later).mp rfl]
              | some fault =>
                  have hn : rest.mapM read = none :=
                    Option.eq_none_iff_forall_ne_some.mpr
                      (fun values hv => absurd ((hrest values).mpr hv) (by simp))
                  simp [Sequence.run, hc, hr, hn]

/-- If the positions of the items have a say in the faults only, a list stands for what its items
stand for. -/
theorem Sequence.toOption_collect {check : Nat → α → Except Fault β} {read : α → Option β}
    (h : ∀ position item, (check position item).toOption = read item) (items : List α)
    : (Sequence.collect check items).toOption = items.mapM read := by
  apply Option.ext
  intro results
  rw [← Sequence.run_eq_iff h 0, Sequence.collect]
  obtain ⟨found, fault⟩ := Sequence.run check 0 items
  cases fault <;> simp

end Reading

-----------------------------------------------------------------------------------------
-- Names and labels
-----------------------------------------------------------------------------------------

namespace Vocabulary

/-- The entity type that a name means without the blanks around it; no name is an empty name. -/
def entityNamed? (vocabulary : Vocabulary) (name : Option String) : Option EntityType :=
  vocabulary.entityType? (Text.trim (name.getD ""))

/-- The commodity type that a name means, which must not be blank. -/
def commodityNamed? (vocabulary : Vocabulary) (name : Option String) : Option CommodityType :=
  (nonBlank? name).bind vocabulary.commodityType?

@[simp]
theorem toOption_entity (vocabulary : Vocabulary) (field : FieldPath) (name : String)
    : (vocabulary.entity field name).toOption = vocabulary.entityType? name := by
  rw [entity]
  cases vocabulary.entityType? name <;> rfl

/-- A reference without a name means what the empty name means. -/
@[simp]
theorem toOption_reference (vocabulary : Vocabulary) (field : FieldPath) (name : Option String)
    : (vocabulary.reference field name).toOption = vocabulary.entityNamed? name :=
  toOption_entity vocabulary field _

/-- A blank name stands for no commodity type, so it need not be told apart from an unknown one. -/
@[simp]
theorem toOption_commodity (vocabulary : Vocabulary) (field : FieldPath) (name : Option String)
    : (vocabulary.commodity field name).toOption = vocabulary.commodityNamed? name := by
  simp only [commodity, commodityNamed?, nonBlank?]
  split
  · rfl
  · simp only [Option.bind_some]
    cases vocabulary.commodityType? (Text.trim (name.getD "")) <;> rfl

end Vocabulary

/-- The field has no say in the relationship that a label stands for. -/
@[simp]
theorem Relationship.toOption_ofLabel (field : FieldPath) (label : String)
    : (Relationship.ofLabel field label).toOption = Labelled.parse? label := by
  rw [Relationship.ofLabel]
  cases (Labelled.parse? label : Option Relationship) <;> rfl

/-- The field has no say in the kind of template that a label stands for. -/
@[simp]
theorem TemplateKind.toOption_ofLabel (field : FieldPath) (label : String)
    : (TemplateKind.ofLabel field label).toOption = Labelled.parse? label := by
  rw [TemplateKind.ofLabel]
  cases (Labelled.parse? label : Option TemplateKind) <;> rfl

/-- A part that is missing passes every check and stands for nothing. -/
@[simp]
theorem toOption_checkOptional {α β : Type} (check : α → Except Fault β) (part : Option α)
    : (checkOptional check part).toOption
      = readOptional? (fun value => (check value).toOption) part := by
  cases part <;> simp [checkOptional, readOptional?]

-----------------------------------------------------------------------------------------
-- Bought groups
-----------------------------------------------------------------------------------------

/-- The cardinality of two optional bounds that are not the wrong way round. -/
def Cardinality.declared? : (least most : Option Int32) → Option (Option Cardinality)
  | none, none => some none
  | some least, some most =>
      if most < least then none else some (some ⟨some least, some most⟩)
  | least, most => some (some ⟨least, most⟩)

/-- Bounds are refused only when both are there and the upper one is below the lower one. -/
@[simp]
theorem Cardinality.toOption_ofBounds (field : FieldPath) (least most : Option Int32)
    : (Cardinality.ofBounds field least most).toOption = Cardinality.declared? least most := by
  cases least <;> cases most <;> simp only [ofBounds, declared?, toOption_ok]
  split <;> rfl

/-- A commodity stands for its type alone: its key and its position have no say. -/
theorem toOption_resolve (vocabulary : Vocabulary) (list : FieldPath) (position : Nat)
    (commodity : Template.Commodity)
    : (commodity.resolve vocabulary list position).toOption
      = vocabulary.commodityNamed? commodity.commodityType :=
  Vocabulary.toOption_commodity vocabulary _ _

/-- What a bought group stands for. -/
def Purchase.declared? (vocabulary : Vocabulary) (group : Template.BoughtGroup)
    : Option Purchase := do
  let reference ← group.key
  let provider ← (nonBlank? reference.templateClass).bind vocabulary.entityType?
  let relationship ← reference.providerType.bind Labelled.parse?
  let cardinality ← Cardinality.declared? reference.cardinalityMin reference.cardinalityMax
  let commodities ←
    group.value.mapM (fun commodity => vocabulary.commodityNamed? commodity.commodityType)
  return ⟨provider, relationship, SortedSet.ofList commodities, cardinality⟩

/-- A provider is refused as blank or as unknown, which are the same once the fault is left out. -/
@[simp]
theorem Purchase.toOption_provider? (vocabulary : Vocabulary) (path : FieldPath)
    (reference : Template.ProviderRef)
    : (Purchase.provider? vocabulary path reference).toOption
      = (nonBlank? reference.templateClass).bind vocabulary.entityType? := by
  simp only [Purchase.provider?, nonBlank?]
  split <;> simp

/-- A missing label is refused like one that means no relationship. -/
@[simp]
theorem Purchase.toOption_relationship? (path : FieldPath) (provider : EntityType)
    (reference : Template.ProviderRef)
    : (Purchase.relationship? path provider reference).toOption
      = reference.providerType.bind Labelled.parse? := by
  rw [Purchase.relationship?]
  cases reference.providerType <;> simp

/-- The checks of a group come to its provider, relationship, bounds and commodities, at any
position. -/
@[simp]
theorem Purchase.toOption_ofGroup (vocabulary : Vocabulary) (position : Nat)
    (group : Template.BoughtGroup)
    : (Purchase.ofGroup vocabulary position group).toOption
      = Purchase.declared? vocabulary group := by
  simp only [Purchase.ofGroup, Purchase.declared?]
  cases group.key with
  | none => rfl
  | some reference =>
      have hvalue := Sequence.toOption_collect
        (toOption_resolve vocabulary
          ((FieldPath.index [.field "commodityBought"] position).field "value"))
        group.value
      simp only [toOption_bind, toOption_pure, Purchase.toOption_provider?,
        Purchase.toOption_relationship?, Cardinality.toOption_ofBounds, hvalue,
        Option.bind_eq_bind, Option.bind_some]

-----------------------------------------------------------------------------------------
-- Properties of links
-----------------------------------------------------------------------------------------

/-- What a handler stands for. -/
def HandlerStep.declared? (vocabulary : Vocabulary) (handler : Template.Handler)
    : Option HandlerStep := do
  let methodName ← nonBlank? handler.methodName
  let name ← handler.entityType
  let entityType ← vocabulary.entityNamed? (some name)
  return ⟨methodName, entityType, handler.directlyApply⟩

/-- A handler needs a method name that is not blank and a known entity type, wherever it stands. -/
@[simp]
theorem HandlerStep.toOption_ofHandler (vocabulary : Vocabulary) (path : FieldPath)
    (handler : Template.Handler)
    : (HandlerStep.ofHandler vocabulary path handler).toOption
      = HandlerStep.declared? vocabulary handler := by
  simp only [HandlerStep.ofHandler, HandlerStep.declared?, nonBlank?]
  split
  · rfl
  · cases handler.entityType with
    | none => rfl
    | some name =>
        simp only [toOption_bind, toOption_pure, Vocabulary.toOption_reference,
          Option.bind_eq_bind, Option.bind_some]

/-- The steps of a chain are those of its handlers, by induction on the chain. -/
theorem HandlerStep.toOption_ofChain (vocabulary : Vocabulary) (path : FieldPath)
    (handlers : List Template.Handler)
    : (HandlerStep.ofChain vocabulary path handlers).toOption
      = handlers.mapM (HandlerStep.declared? vocabulary) := by
  induction handlers generalizing path with
  | nil => rfl
  | cons handler rest ih =>
      simp only [HandlerStep.ofChain, toOption_bind, toOption_pure,
        HandlerStep.toOption_ofHandler, ih, List.mapM_cons]

/-- A chain of handlers stands for its steps only if it has a first handler. -/
@[simp]
theorem HandlerStep.toOption_ofHandlers (vocabulary : Vocabulary) (path : FieldPath)
    (handlers : List Template.Handler)
    : (HandlerStep.ofHandlers vocabulary path handlers).toOption
      = readNonempty? (HandlerStep.declared? vocabulary) handlers := by
  simp only [HandlerStep.ofHandlers, readNonempty?]
  split
  · rfl
  · exact HandlerStep.toOption_ofChain vocabulary path handlers

/-- What a property of the other side of a link stands for. -/
def Propagation.declared? (vocabulary : Vocabulary) (property : Template.EntityProperty)
    : Option Propagation := do
  let name ← property.entity
  let entity ← vocabulary.entityNamed? (some name)
  let handlers ← readNonempty? (HandlerStep.declared? vocabulary) property.handlers
  return ⟨entity, property.attributeName, property.useTopoExt, handlers⟩

/-- A property needs a known entity type and at least one handler, at any position. -/
@[simp]
theorem Propagation.toOption_ofProperty (vocabulary : Vocabulary) (list : FieldPath)
    (position : Nat) (property : Template.EntityProperty)
    : (Propagation.ofProperty vocabulary list position property).toOption
      = Propagation.declared? vocabulary property := by
  simp only [Propagation.ofProperty, Propagation.declared?]
  cases property.entity with
  | none => rfl
  | some name =>
      simp only [toOption_bind, toOption_pure, Vocabulary.toOption_reference,
        HandlerStep.toOption_ofHandlers, Option.bind_eq_bind, Option.bind_some]

/-- A probe property stands for its name without the blanks around it. -/
@[simp]
theorem toOption_probePropertyName (list : FieldPath) (position : Nat)
    (property : Template.ProbeProperty)
    : (probePropertyName list position property).toOption = nonBlank? property.name := by
  simp only [probePropertyName, nonBlank?]
  split <;> rfl

end SupplyGraph
