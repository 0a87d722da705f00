import Mathlib.Data.List.Forall2
import SupplyGraph.Compiler
import SupplyGraph.Proofs.Text.Padding

/-!
Padded names. Documents that differ only in the blanks at the ends of their names compile to the
same chain, or are rejected at the same entry and with the same fault. Whatever the vocabulary
knows, it is never asked for a name with blanks around it.
-/

namespace SupplyGraph

open Text (PaddedAlike)

-----------------------------------------------------------------------------------------
-- Documents that differ in padding
-----------------------------------------------------------------------------------------

namespace Template

/-- The commodities have the same commodity type up to padding, and all else in common. The
structures below say the same of the other records. -/
structure Commodity.PaddedAlike (left right : Commodity) : Prop where
  commodityType : Option.Rel Text.PaddedAlike left.commodityType right.commodityType
  key : left.key = right.key
  optional : left.optional = right.optional

structure ProviderRef.PaddedAlike (left right : ProviderRef) : Prop where
  templateClass : Option.Rel Text.PaddedAlike left.templateClass right.templateClass
  providerType : Option.Rel Text.PaddedAlike left.providerType right.providerType
  cardinalityMin : left.cardinalityMin = right.cardinalityMin
  cardinalityMax : left.cardinalityMax = right.cardinalityMax

structure BoughtGroup.PaddedAlike (left right : BoughtGroup) : Prop where
  key : Option.Rel ProviderRef.PaddedAlike left.key right.key
  value : List.Forall₂ Commodity.PaddedAlike left.value right.value

structure CommodityDef.PaddedAlike (left right : CommodityDef) : Prop where
  commodityType : Option.Rel Text.PaddedAlike left.commodityType right.commodityType
  hasKey : left.hasKey = right.hasKey

structure ProbeProperty.PaddedAlike (left right : ProbeProperty) : Prop where
  name : Option.Rel Text.PaddedAlike left.name right.name
  description : left.description = right.description

structure Handler.PaddedAlike (left right : Handler) : Prop where
  methodName : Option.Rel Text.PaddedAlike left.methodName right.methodName
  entityType : Option.Rel Text.PaddedAlike left.entityType right.entityType
  directlyApply : left.directlyApply = right.directlyApply

structure EntityProperty.PaddedAlike (left right : EntityProperty) : Prop where
  entity : Option.Rel Text.PaddedAlike left.entity right.entity
  attributeName : left.attributeName = right.attributeName
  useTopoExt : left.useTopoExt = right.useTopoExt
  handlers : List.Forall₂ Handler.PaddedAlike left.handlers right.handlers

structure LinkDeclaration.PaddedAlike (left right : LinkDeclaration) : Prop where
  buyerRef : Option.Rel Text.PaddedAlike left.buyerRef right.buyerRef
  sellerRef : Option.Rel Text.PaddedAlike left.sellerRef right.sellerRef
  relationship : Option.Rel Text.PaddedAlike left.relationship right.relationship
  commodityDefs : List.Forall₂ CommodityDef.PaddedAlike left.commodityDefs right.commodityDefs
  key : left.key = right.key
  hasExternalEntity : left.hasExternalEntity = right.hasExternalEntity
  probeProperties
    : List.Forall₂ ProbeProperty.PaddedAlike left.probeProperties right.probeProperties
  entityProperties
    : List.Forall₂ EntityProperty.PaddedAlike left.entityProperties right.entityProperties

structure LinkEntry.PaddedAlike (left right : LinkEntry) : Prop where
  key : Option.Rel Text.PaddedAlike left.key right.key
  value : left.value.PaddedAlike right.value

structure Entry.PaddedAlike (left right : Entry) : Prop where
  templateClass : Text.PaddedAlike left.templateClass right.templateClass
  templateType : Option.Rel Text.PaddedAlike left.templateType right.templateType
  templatePriority : left.templatePriority = right.templatePriority
  commoditySold : List.Forall₂ Commodity.PaddedAlike left.commoditySold right.commoditySold
  commodityBought : List.Forall₂ BoughtGroup.PaddedAlike left.commodityBought right.commodityBought
  externalLink : List.Forall₂ LinkEntry.PaddedAlike left.externalLink right.externalLink

/-- The documents differ only in the padding of names. -/
def Document.PaddedAlike (left right : Document) : Prop :=
  List.Forall₂ Entry.PaddedAlike left.entries right.entries

end Template

-----------------------------------------------------------------------------------------
-- Checks of names
-----------------------------------------------------------------------------------------

/-- Texts that are padded alike are the same once they are trimmed. -/
theorem trim_eq_of_paddedAlike {left right : String} (h : PaddedAlike left right)
    : Text.trim left = Text.trim right :=
  Text.paddedAlike_iff_trim_eq.mp h

/-- Where no name is an empty one, names are still trimmed alike. -/
theorem trim_getD_eq {left right : Option String} (h : Option.Rel PaddedAlike left right)
    : Text.trim (left.getD "") = Text.trim (right.getD "") := by
  cases h with
  | some halike => exact trim_eq_of_paddedAlike halike
  | none => rfl

section Names

variable (vocabulary : Vocabulary) (field : FieldPath)

/-- The fault of an unknown reference shows the trimmed name, so it is the same fault too. -/
theorem Vocabulary.reference_congr {left right : Option String}
    (h : Option.Rel PaddedAlike left right)
    : vocabulary.reference field left = vocabulary.reference field right := by
  rw [reference, reference, trim_getD_eq h]

/-- A commodity is blank, unknown or known irrespective of its padding. -/
theorem Vocabulary.commodity_congr {left right : Option String}
    (h : Option.Rel PaddedAlike left right)
    : vocabulary.commodity field left = vocabulary.commodity field right := by
  rw [commodity, commodity, trim_getD_eq h]

/-- Labels are parsed without the blanks around them, and so are they shown in a fault. -/
theorem Relationship.ofLabel_congr {left right : String} (h : PaddedAlike left right)
    : ofLabel field left = ofLabel field right := by
  rw [ofLabel, ofLabel, Labelled.parse?, Labelled.parse?, trim_eq_of_paddedAlike h]

theorem TemplateKind.ofLabel_congr {left right : String} (h : PaddedAlike left right)
    : ofLabel field left = ofLabel field right := by
  rw [ofLabel, ofLabel, Labelled.parse?, Labelled.parse?, trim_eq_of_paddedAlike h]

/-- A part that may be missing is checked alike if it is missing on both sides or checked alike
itself. -/
theorem checkOptional_congr {α β : Type} {R : α → α → Prop} {check : α → Except Fault β}
    (hcheck : ∀ left right, R left right → check left = check right) {left right : Option α}
    (h : Option.Rel R left right)
    : checkOptional check left = checkOptional check right := by
  cases h with
  | some halike => rw [checkOptional, checkOptional, hcheck _ _ halike]
  | none => rfl

end Names

-----------------------------------------------------------------------------------------
-- Checks of lists
-----------------------------------------------------------------------------------------

section Lists

variable {α β ε : Type} {R : α → α → Prop} {items others : List α}

/-- Lists that correspond item by item are empty together. -/
theorem isEmpty_congr (h : List.Forall₂ R items others)
    : items.isEmpty = others.isEmpty := by
  cases h <;> rfl

/-- A check that does not tell items apart does not tell lists of them apart, by induction on the
two lists. -/
theorem Sequence.run_congr {check other : Nat → α → Except ε β}
    (hcheck : ∀ position left right, R left right → check position left = other position right)
    (h : List.Forall₂ R items others) (position : Nat)
    : run check position items = run other position others := by
  induction h generalizing position with
  | nil => rfl
  | cons halike _ ih => rw [run, run, hcheck position _ _ halike, ih (position + 1)]

/-- Lists are checked alike if the items at the same position are. -/
theorem Sequence.collect_congr {check other : Nat → α → Except ε β}
    (hcheck : ∀ position left right, R left right → check position left = other position right)
    (h : List.Forall₂ R items others)
    : collect check items = collect other others := by
  rw [collect, collect, run_congr hcheck h]

/-- A rule fills a part of a link alike, and is refused alike on an empty list. -/
theorem LinkRule.fill_congr {link : Link} {missing : Fault} {check : Nat → α → Except Fault β}
    {add : Link → List β → Link}
    (hcheck : ∀ position left right, R left right → check position left = check position right)
    (h : List.Forall₂ R items others)
    : fill link missing check items add = fill link missing check others add := by
  rw [fill, fill, isEmpty_congr h, Sequence.run_congr hcheck h]

end Lists

-----------------------------------------------------------------------------------------
-- Checks of entries
-----------------------------------------------------------------------------------------

section Entries

variable (vocabulary : Vocabulary)

/-- The field of a fault depends on the position and not on the padding. -/
theorem Template.Commodity.resolve_congr (list : FieldPath) (position : Nat)
    {left right : Template.Commodity} (h : left.PaddedAlike right)
    : left.resolve vocabulary list position = right.resolve vocabulary list position :=
  vocabulary.commodity_congr _ h.commodityType

theorem Purchase.provider?_congr (path : FieldPath) {left right : Template.ProviderRef}
    (h : left.PaddedAlike right)
    : provider? vocabulary path left = provider? vocabulary path right := by
  rw [provider?, provider?, trim_getD_eq h.templateClass]

theorem Purchase.relationship?_congr (path : FieldPath) (provider : EntityType)
    {left right : Template.ProviderRef} (h : left.PaddedAlike right)
    : relationship? path provider left = relationship? path provider right := by
  have hlabel := h.providerType
  rw [relationship?, relationship?]
  generalize left.providerType = label, right.providerType = other at hlabel ⊢
  cases hlabel with
  | some halike => exact Relationship.ofLabel_congr _ halike
  | none => rfl

/-- Groups that differ in padding give the same purchase or the same fault. -/
theorem Purchase.ofGroup_congr (position : Nat) {left right : Template.BoughtGroup}
    (h : left.PaddedAlike right)
    : ofGroup vocabulary position left = ofGroup vocabulary position right := by
  obtain ⟨hkey, hvalue⟩ := h
  rw [ofGroup, ofGroup]
  generalize left.key = reference, right.key = other at hkey ⊢
  cases hkey with
  | none => rfl
  | some halike =>
      simp only [provider?_congr vocabulary _ halike, relationship?_congr _ _ halike,
        halike.cardinalityMin, halike.cardinalityMax,
        Sequence.collect_congr (Template.Commodity.resolve_congr vocabulary _) hvalue]

theorem Trade.soldOf_congr {left right : List Template.Commodity}
    (h : List.Forall₂ Template.Commodity.PaddedAlike left right)
    : soldOf vocabulary left = soldOf vocabulary right := by
  rw [soldOf, soldOf, isEmpty_congr h]
  congr 1
  refine Sequence.collect_congr (fun position commodity other halike => ?_) h
  rw [Template.Commodity.resolve_congr vocabulary _ position halike, halike.key]

/-- Entries that differ in padding trade alike. -/
theorem Trade.ofEntry_congr {left right : Template.Entry} (h : left.PaddedAlike right)
    : ofEntry vocabulary left = ofEntry vocabulary right := by
  rw [ofEntry, ofEntry, soldOf_congr vocabulary h.commoditySold,
    Sequence.collect_congr (Purchase.ofGroup_congr vocabulary) h.commodityBought]

-----------------------------------------------------------------------------------------
-- Checks of links
-----------------------------------------------------------------------------------------

/-- A handler comes to the same step: its method name is kept without the blanks around it. -/
theorem HandlerStep.ofHandler_congr (path : FieldPath) {left right : Template.Handler}
    (h : left.PaddedAlike right)
    : ofHandler vocabulary path left = ofHandler vocabulary path right := by
  obtain ⟨hmethod, hentity, happly⟩ := h
  rw [ofHandler, ofHandler, trim_getD_eq hmethod, happly]
  generalize left.entityType = name, right.entityType = other at hentity ⊢
  cases hentity with
  | none => rfl
  | some halike => simp only [vocabulary.reference_congr _ (.some halike)]

/-- By induction on the two chains, each handler being checked at the path that the chain has come
to. -/
theorem HandlerStep.ofChain_congr (path : FieldPath) {left right : List Template.Handler}
    (h : List.Forall₂ Template.Handler.PaddedAlike left right)
    : ofChain vocabulary path left = ofChain vocabulary path right := by
  induction h generalizing path with
  | nil => rfl
  | cons halike _ ih => rw [ofChain, ofChain, ofHandler_congr vocabulary path halike, ih]

/-- The name of the attribute is kept as it is written, so it must be the same on both sides. -/
theorem Propagation.ofProperty_congr (list : FieldPath) (position : Nat)
    {left right : Template.EntityProperty} (h : left.PaddedAlike right)
    : ofProperty vocabulary list position left = ofProperty vocabulary list position right := by
  obtain ⟨hentity, hattribute, htopo, hhandlers⟩ := h
  rw [ofProperty, ofProperty, hattribute, htopo]
  generalize left.entity = name, right.entity = other at hentity ⊢
  cases hentity with
  | none => rfl
  | some halike =>
      simp only [vocabulary.reference_congr _ (.some halike), HandlerStep.ofHandlers,
        isEmpty_congr hhandlers, HandlerStep.ofChain_congr vocabulary _ hhandlers]

theorem probePropertyName_congr (list : FieldPath) (position : Nat)
    {left right : Template.ProbeProperty} (h : left.PaddedAlike right)
    : probePropertyName list position left = probePropertyName list position right := by
  rw [probePropertyName, probePropertyName, trim_getD_eq h.name]

/-- No rule tells declarations apart that differ in padding only. -/
theorem LinkRule.apply_congr (context : LinkContext) (path : FieldPath)
    {left right : Template.LinkDeclaration} (h : left.PaddedAlike right) (link : Link)
    (rule : LinkRule)
    : rule.apply context path left link = rule.apply context path right link := by
  cases rule with
  | scope | hostingConsistency => rfl
  | commodityDefs =>
      rw [apply, apply]
      refine fill_congr (fun position definition other halike => ?_) h.commodityDefs
      exact context.vocabulary.commodity_congr _ halike.commodityType
  | probeProperties =>
      rw [apply, apply]
      exact fill_congr (probePropertyName_congr _) h.probeProperties
  | entityProperties =>
      rw [apply, apply]
      exact fill_congr (Propagation.ofProperty_congr context.vocabulary _) h.entityProperties

/-- What a link refers to is resolved alike; its own key is kept as it is written. -/
theorem Link.ofReferences_congr (path : FieldPath) {left right : Template.LinkEntry}
    (h : left.PaddedAlike right)
    : ofReferences vocabulary path left = ofReferences vocabulary path right := by
  simp only [ofReferences, vocabulary.reference_congr _ h.value.sellerRef,
    vocabulary.reference_congr _ h.value.buyerRef,
    checkOptional_congr (fun _ _ halike => vocabulary.reference_congr _ (.some halike)) h.key,
    checkOptional_congr (fun _ _ halike => Relationship.ofLabel_congr _ halike)
      h.value.relationship,
    h.value.key, h.value.hasExternalEntity]

/-- Links that differ in padding are validated alike, against the same labels. -/
theorem Link.validate_congr (context : LinkContext) (position : Nat)
    {left right : Template.LinkEntry} (h : left.PaddedAlike right)
    : validate context position left = validate context position right := by
  simp only [validate, ofReferences_congr context.vocabulary _ h, LinkRule.applyAll,
    LinkRule.apply_congr context _ h.value]

/-- By induction on the two rows of link entries; as a link is the same in both, it leaves the same
context for the links after it. -/
theorem Link.validateFrom_congr (context : LinkContext) (position : Nat)
    {left right : List Template.LinkEntry}
    (h : List.Forall₂ Template.LinkEntry.PaddedAlike left right)
    : validateFrom context position left = validateFrom context position right := by
  induction h generalizing context position with
  | nil => rfl
  | cons halike _ ih => simp only [validateFrom, validate_congr context position halike, ih]

/-- Entries that differ in padding give the same node or the same fault. -/
theorem Node.ofEntry_congr {left right : Template.Entry} (h : left.PaddedAlike right)
    : ofEntry vocabulary left = ofEntry vocabulary right := by
  simp only [ofEntry, trim_eq_of_paddedAlike h.templateClass,
    checkOptional_congr (fun _ _ halike => TemplateKind.ofLabel_congr _ halike) h.templateType,
    h.templatePriority, Trade.ofEntry_congr vocabulary h, Link.validateAll,
    Link.validateFrom_congr _ 0 h.externalLink]

-----------------------------------------------------------------------------------------
-- Runs
-----------------------------------------------------------------------------------------

/-- Rows of entries that differ in padding extend a chain to the same one, or are refused at the
same position and with the same fault, by induction on the two rows. -/
theorem Chain.addEntries_congr (chain : Chain) (position : Nat) {left right : List Template.Entry}
    (h : List.Forall₂ Template.Entry.PaddedAlike left right)
    : (∃ reached,
        addEntries vocabulary chain position left = .ok reached
        ∧ addEntries vocabulary chain position right = .ok reached)
      ∨ ∃ later entry other, ∃ fault : Fault,
        left[later]? = some entry
        ∧ right[later]? = some other
        ∧ addEntries vocabulary chain position left
          = .error (fault.within (position + later) entry.templateClass)
        ∧ addEntries vocabulary chain position right
          = .error (fault.within (position + later) other.templateClass) := by
  induction h generalizing chain position with
  | nil => exact .inl ⟨chain, rfl, rfl⟩
  | @cons entry other rest others halike _ ih =>
      simp only [addEntries, addEntry, Node.ofEntry_congr vocabulary halike]
      cases Node.ofEntry vocabulary other >>= chain.fold with
      | error fault => exact .inr ⟨0, entry, other, fault, rfl, rfl, rfl, rfl⟩
      | ok extended =>
          rcases ih extended (position + 1) with hreached | ⟨later, refused, padded, fault, h⟩
          · exact .inl hreached
          · have hposition : position + 1 + later = position + (later + 1) := by omega
            rw [hposition] at h
            exact .inr ⟨later + 1, refused, padded, fault, h⟩

/-- Documents that differ only in the blanks at the ends of their names compile to the same chain,
or are rejected at the same entry with the same fault. A rejection still says what the class of the
entry is as its own document has it. -/
theorem compile_of_paddedAlike {first second : Template.Document} (h : first.PaddedAlike second)
    : (∃ chain, compile vocabulary first = .ok chain ∧ compile vocabulary second = .ok chain)
      ∨ ∃ position entry other, ∃ fault : Fault,
        first.entries[position]? = some entry
        ∧ second.entries[position]? = some other
        ∧ compile vocabulary first = .error (fault.within position entry.templateClass)
        ∧ compile vocabulary second = .error (fault.within position other.templateClass) := by
  simpa only [compile, Nat.zero_add] using Chain.addEntries_congr vocabulary ∅ 0 h

end Entries

/-- A vocabulary that knows two names, as they are written. -/
def machineNames : Vocabulary :=
  .custom (.ofList [("VIRTUAL_MACHINE", .virtualMachine)]) (.ofList [("VCPU", .vcpu)])

/-- A machine with a provider that the vocabulary does not know. -/
def looseMachine (padding : String) : Template.Document where
  entries := [{
    templateClass := padding ++ "VIRTUAL_MACHINE"
    commoditySold := [{ commodityType := "VCPU" ++ padding }]
    commodityBought := [{ key := some { templateClass := padding ++ "HOST" ++ padding } }] }]

/-- A vocabulary that also knows the host of a machine and what the host sells. -/
def hostNames : Vocabulary :=
  .custom (.ofList [("PHYSICAL_MACHINE", .physicalMachine), ("VIRTUAL_MACHINE", .virtualMachine)])
    (.ofList [("CPU", .cpu), ("VCPU", .vcpu)])

/-- A machine that buys from its host and has a link to it, over which two handlers carry a
property. -/
def looseGuest (padding : String) : Template.Document where
  entries := [{
    templateClass := padding ++ "VIRTUAL_MACHINE"
    templateType := "BASE" ++ padding
    commoditySold := [{ commodityType := "VCPU" ++ padding }]
    commodityBought := [{
      key := some {
        templateClass := "PHYSICAL_MACHINE" ++ padding
        providerType := padding ++ "HOSTING" }
      value := [{ commodityType := padding ++ "CPU" }] }]
    externalLink := [{
      key := some (padding ++ "PHYSICAL_MACHINE")
      value := {
        buyerRef := "VIRTUAL_MACHINE" ++ padding
        sellerRef := padding ++ "PHYSICAL_MACHINE"
        relationship := "HOSTING" ++ padding
        commodityDefs := [{ commodityType := "CPU" ++ padding }]
        probeProperties := [{ name := padding ++ "uuid" }]
        entityProperties := [{
          entity := "PHYSICAL_MACHINE" ++ padding
          handlers :=
            [{ methodName := "getHost" ++ padding, entityType := padding ++ "PHYSICAL_MACHINE" },
              { methodName := padding ++ "getName", entityType := "PHYSICAL_MACHINE" }] }] } }] }]

/-- Names that are trimmed to the same text are padded alike. -/
theorem rel_paddedAlike_of_trim_eq {left right : String} (h : Text.trim left = Text.trim right)
    : Option.Rel PaddedAlike (some left) (some right) :=
  .some (Text.paddedAlike_iff_trim_eq.mpr h)

theorem looseMachine_paddedAlike
    : (looseMachine "").PaddedAlike (looseMachine "\t ") := by
  refine .cons ⟨Text.paddedAlike_iff_trim_eq.mpr (by decide), .none, rfl, ?_, ?_, .nil⟩ .nil
  · exact .cons ⟨rel_paddedAlike_of_trim_eq (by decide), rfl, rfl⟩ .nil
  · exact .cons ⟨.some ⟨rel_paddedAlike_of_trim_eq (by decide), .none, rfl, rfl⟩, .nil⟩ .nil

theorem looseGuest_paddedAlike
    : (looseGuest "").PaddedAlike (looseGuest "\t ") := by
  refine .cons ⟨Text.paddedAlike_iff_trim_eq.mpr (by decide), ?kind, rfl, ?sold, ?bought, ?link⟩
    .nil
  case kind => exact rel_paddedAlike_of_trim_eq (by decide)
  case sold => exact .cons ⟨rel_paddedAlike_of_trim_eq (by decide), rfl, rfl⟩ .nil
  case bought =>
    refine .cons ⟨.some ⟨?_, ?_, rfl, rfl⟩, .cons ⟨?_, rfl, rfl⟩ .nil⟩ .nil <;>
      exact rel_paddedAlike_of_trim_eq (by decide)
  case link =>
    refine .cons ⟨?_, ⟨?_, ?_, ?_, .cons ⟨?_, rfl⟩ .nil, rfl, rfl, .cons ⟨?_, rfl⟩ .nil,
      .cons ⟨?_, rfl, rfl, .cons ⟨?_, ?_, rfl⟩ (.cons ⟨?_, ?_, rfl⟩ .nil)⟩ .nil⟩⟩ .nil <;>
      exact rel_paddedAlike_of_trim_eq (by decide)

theorem compile_of_paddedAlike_looseMachine
    : ((looseMachine "").PaddedAlike (looseMachine "\t ")
        ∧ ∃ fault : Fault,
            compile machineNames (looseMachine "")
              = .error (fault.within 0 "VIRTUAL_MACHINE")
            ∧ compile machineNames (looseMachine "\t ")
              = .error (fault.within 0 "\t VIRTUAL_MACHINE"))
      ∧ (looseGuest "").PaddedAlike (looseGuest "\t ")
      ∧ ∃ chain,
          compile hostNames (looseGuest "") = .ok chain
          ∧ compile hostNames (looseGuest "\t ") = .ok chain := by
  refine ⟨⟨looseMachine_paddedAlike, ?_⟩, looseGuest_paddedAlike, ?_⟩
  · rcases compile_of_paddedAlike machineNames looseMachine_paddedAlike with
      ⟨chain, hfirst, _⟩ | ⟨position, entry, other, fault, h⟩
    · have hrejected : (compile machineNames (looseMachine "")).toOption.isNone := by
        decide +kernel
      rw [hfirst] at hrejected
      cases hrejected
    · cases position with
      | zero =>
          obtain ⟨hentry, hother, hfirst, hsecond⟩ := h
          cases hentry
          cases hother
          exact ⟨fault, hfirst, hsecond⟩
      | succ position => cases h.1
  · rcases compile_of_paddedAlike hostNames looseGuest_paddedAlike with
      hchain | ⟨_, _, _, _, _, _, hfirst, _⟩
    · exact hchain
    · have haccepted : (compile hostNames (looseGuest "")).toOption.isSome := by
        decide +kernel
      rw [hfirst] at haccepted
      cases haccepted

end SupplyGraph
