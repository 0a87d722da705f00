import SupplyGraph.Proofs.Compile.Padding
import SupplyGraph.Proofs.Entry.LinkDecisions
import SupplyGraph.Proofs.Template.Names

/-!
Richer vocabularies. A vocabulary that knows more than another one makes the same of a document,
unless the other one does not know a name that is written in the document.
-/

namespace SupplyGraph

/-- What the first vocabulary makes of some of the names, the second one makes of them, too. -/
def Vocabulary.ExtendedBy (base more : Vocabulary) (names : List Name) : Prop :=
  ∀ name ∈ names, ∀ term, base.meaning? name = some term → more.meaning? name = some term

/-- Of some of the names, one is unknown to the first vocabulary and known to the second one. -/
def Vocabulary.Lacks (base more : Vocabulary) (names : List Name) (name : Name) : Prop :=
  name ∈ names ∧ base.meaning? name = none ∧ more.meaning? name ≠ none

/-- Two outcomes are the same, unless the first one is that a name is unknown which the first
vocabulary lacks. -/
def Follows (base more : Vocabulary) (names : List Name) {α : Type} (first second : Except Fault α)
    : Prop :=
  first = second
  ∨ ∃ name field, base.Lacks more names name ∧ first = .error ⟨field, name.unknown⟩

variable {base more : Vocabulary} {names : List Name}

-----------------------------------------------------------------------------------------
-- Outcomes one after the other
-----------------------------------------------------------------------------------------

namespace Follows

variable {α β : Type}

theorem refl (outcome : Except Fault α) : Follows base more names outcome outcome := Or.inl rfl

/-- Outcomes stay alike when a next step is put behind each that is alike on every value. -/
theorem bind {first second : Except Fault α} {next other : α → Except Fault β}
    (h : Follows base more names first second)
    (hn : ∀ value, Follows base more names (next value) (other value))
    : Follows base more names (first >>= next) (second >>= other) := by
  rcases h with rfl | ⟨name, field, hlacks, rfl⟩
  · cases first with
    | error fault => exact refl _
    | ok value => exact hn value
  · exact Or.inr ⟨name, field, hlacks, rfl⟩

/-- A change of the value keeps the outcomes the same, or the fault in its place. -/
theorem map {first second : Except Fault α} (h : Follows base more names first second)
    (change : α → β)
    : Follows base more names (first.map change) (second.map change) := by
  rcases h with rfl | ⟨name, field, hlacks, rfl⟩
  · exact refl _
  · exact Or.inr ⟨name, field, hlacks, rfl⟩

/-- A part that is missing is not looked up, so nothing can be lacking. -/
theorem checkOptional {check other : α → Except Fault β} {part : Option α}
    (h : ∀ value ∈ part, Follows base more names (check value) (other value))
    : Follows base more names (SupplyGraph.checkOptional check part)
        (SupplyGraph.checkOptional other part) := by
  cases part with
  | none => exact refl _
  | some value => exact (h value rfl).map some

/-- A run over some items is the check of the first one and then the run over the others. -/
theorem outcomeOf_run_cons (check : Nat → α → Except Fault β) (position : Nat) (item : α)
    (rest : List α)
    : outcomeOf (Sequence.run check position (item :: rest))
      = check position item >>= fun result =>
          (outcomeOf (Sequence.run check (position + 1) rest)).map (result :: ·) := by
  rw [Sequence.run]
  cases check position item with
  | error fault => rfl
  | ok result =>
      obtain ⟨later, fault⟩ := Sequence.run check (position + 1) rest
      cases fault <;> rfl

/-- Items are checked one after the other, by induction on the items. -/
theorem run {check other : Nat → α → Except Fault β} {items : List α}
    (h : ∀ item ∈ items, ∀ position,
      Follows base more names (check position item) (other position item))
    (position : Nat)
    : Follows base more names (outcomeOf (Sequence.run check position items))
        (outcomeOf (Sequence.run other position items)) := by
  induction items generalizing position with
  | nil => exact refl _
  | cons item rest ih =>
      obtain ⟨hitem, hrest⟩ := List.forall_mem_cons.mp h
      rw [outcomeOf_run_cons, outcomeOf_run_cons]
      exact (hitem position).bind (fun result => (ih hrest (position + 1)).map _)

/-- Lists are checked with the same outcome if their items are, at whatever position. -/
theorem collect {check other : Nat → α → Except Fault β} {items : List α}
    (h : ∀ item ∈ items, ∀ position,
      Follows base more names (check position item) (other position item))
    : Follows base more names (Sequence.collect check items) (Sequence.collect other items) := by
  rw [Sequence.collect_eq_outcomeOf, Sequence.collect_eq_outcomeOf]
  exact run h 0

end Follows

-----------------------------------------------------------------------------------------
-- Names
-----------------------------------------------------------------------------------------

/-- A meaning, or else the fault that the name has none. -/
def knownOr {α : Type} (field : FieldPath) (name : Name) : Option α → Except Fault α
  | some value => .ok value
  | none => .error ⟨field, name.unknown⟩

/-- An entity type is looked up as it is written, and the fault repeats the name. -/
theorem Vocabulary.entity_eq_knownOr (vocabulary : Vocabulary) (field : FieldPath) (text : String)
    : vocabulary.entity field text
      = knownOr field (.entity text) (vocabulary.entityType? text) := by
  rw [entity]
  cases vocabulary.entityType? text <;> rfl

/-- A commodity type is looked up without the blanks around it, once it is known not to be blank. -/
theorem Vocabulary.commodity_eq_knownOr (vocabulary : Vocabulary) (field : FieldPath)
    (name : Option String)
    : vocabulary.commodity field name
      = if (Text.trim (name.getD "")).isEmpty then .error ⟨field, .missingCommodityType⟩
        else
          knownOr field (.commodity (Text.trim (name.getD "")))
            (vocabulary.commodityType? (Text.trim (name.getD ""))) := by
  rw [commodity]
  cases vocabulary.commodityType? (Text.trim (name.getD "")) <;> rfl

section Stages

variable (h : base.ExtendedBy more names)
include h

/-- Names are looked up with the same meaning, or the first vocabulary lacks the name. -/
theorem follows_lookup {α : Type} (field : FieldPath) {name : Name} (hm : name ∈ names)
    {wrap : α → Term} (hwrap : Function.Injective wrap) {first second : Option α}
    (hfirst : base.meaning? name = first.map wrap) (hsecond : more.meaning? name = second.map wrap)
    : Follows base more names (knownOr field name first) (knownOr field name second) := by
  cases first with
  | some value =>
      have hmore := h name hm (wrap value) hfirst
      rw [hsecond, Option.map_eq_some_iff] at hmore
      obtain ⟨other, rfl, hother⟩ := hmore
      rw [hwrap hother]
      exact Follows.refl _
  | none =>
      cases second with
      | none => exact Follows.refl _
      | some value =>
          have hknown : more.meaning? name ≠ none := by simp [hsecond]
          exact Or.inr ⟨name, field, ⟨hm, hfirst, hknown⟩, rfl⟩

/-- An entity type among the names is looked up alike, unless it is lacking. -/
theorem follows_entity (field : FieldPath) {text : String} (hm : .entity text ∈ names)
    : Follows base more names (base.entity field text) (more.entity field text) := by
  rw [Vocabulary.entity_eq_knownOr, Vocabulary.entity_eq_knownOr]
  exact follows_lookup h field hm (fun _ _ he => Term.entity.inj he) rfl rfl

/-- A reference is looked up alike when its trimmed name is among the names, the empty one included.
-/
theorem follows_reference (field : FieldPath) {name : Option String}
    (hm : .entity (Text.trim (name.getD "")) ∈ names)
    : Follows base more names (base.reference field name) (more.reference field name) :=
  follows_entity h field hm

theorem follows_written (field : FieldPath) {text : String}
    (hm : Template.entityNames (some text) ⊆ names)
    : Follows base more names (base.reference field (some text))
        (more.reference field (some text)) :=
  follows_entity h field (hm (List.mem_singleton.mpr rfl))

/-- A blank commodity is refused by both vocabularies, so only a name that is not blank need be
among the names. -/
theorem follows_commodity (field : FieldPath) {name : Option String}
    (hm : Template.commodityNames name ⊆ names)
    : Follows base more names (base.commodity field name) (more.commodity field name) := by
  rw [Vocabulary.commodity_eq_knownOr, Vocabulary.commodity_eq_knownOr]
  cases name with
  | none => exact Follows.refl _
  | some text =>
      split
      · exact Follows.refl _
      · exact follows_lookup h field (hm (List.mem_singleton.mpr rfl))
          (fun _ _ he => Term.commodity.inj he) rfl rfl

-----------------------------------------------------------------------------------------
-- What an entry sells and buys
-----------------------------------------------------------------------------------------

/-- The commodities of a list are looked up alike when all that they mention is among the names. -/
theorem follows_resolve (list : FieldPath) {commodities : List Template.Commodity}
    (hm : commodities.flatMap Template.Commodity.mentions ⊆ names)
    : ∀ commodity ∈ commodities, ∀ position,
        Follows base more names (commodity.resolve base list position)
          (commodity.resolve more list position) := by
  intro commodity hcommodity position
  exact follows_commodity h _ (Template.mentions_subset hm hcommodity)

theorem follows_provider? (path : FieldPath) {reference : Template.ProviderRef}
    (hm : reference.mentions ⊆ names)
    : Follows base more names (Purchase.provider? base path reference)
        (Purchase.provider? more path reference) := by
  obtain ⟨name, label, least, most⟩ := reference
  cases name with
  | none => exact Follows.refl _
  | some text =>
      rw [Purchase.provider?, Purchase.provider?]
      split
      · exact Follows.refl _
      · exact follows_written h _ hm

/-- The only names of a group that are looked up are its provider and its commodities. -/
theorem follows_ofGroup {group : Template.BoughtGroup} (hm : group.mentions ⊆ names)
    (position : Nat)
    : Follows base more names (Purchase.ofGroup base position group)
        (Purchase.ofGroup more position group) := by
  obtain ⟨key, value⟩ := group
  obtain ⟨hkey, hvalue⟩ := List.append_subset.mp hm
  cases key with
  | none => exact Follows.refl _
  | some reference =>
      have hreference := Template.mentions_subset hkey (List.mem_singleton.mpr rfl)
      refine (follows_provider? h _ hreference).bind (fun provider => ?_)
      refine (Follows.refl _).bind (fun relationship => ?_)
      refine (Follows.refl _).bind (fun cardinality => ?_)
      exact (Follows.collect (follows_resolve h _ hvalue)).bind (fun commodities => Follows.refl _)

theorem follows_soldOf {sold : List Template.Commodity}
    (hm : sold.flatMap Template.Commodity.mentions ⊆ names)
    : Follows base more names (Trade.soldOf base sold) (Trade.soldOf more sold) := by
  rw [Trade.soldOf, Trade.soldOf]
  split
  · exact Follows.refl _
  · refine Follows.collect (fun commodity hcommodity position => ?_)
    exact (follows_resolve h _ hm commodity hcommodity position).bind (fun _ => Follows.refl _)

/-- What an entry sells and buys is made alike of the same names. -/
theorem follows_tradeOfEntry {entry : Template.Entry}
    (hsold : entry.commoditySold.flatMap Template.Commodity.mentions ⊆ names)
    (hbought : entry.commodityBought.flatMap Template.BoughtGroup.mentions ⊆ names)
    : Follows base more names (Trade.ofEntry base entry) (Trade.ofEntry more entry) := by
  refine (follows_soldOf h hsold).bind (fun sold => ?_)
  refine Follows.bind (Follows.collect (fun group hgroup position => ?_))
    (fun bought => Follows.refl _)
  exact follows_ofGroup h (Template.mentions_subset hbought hgroup) position

-----------------------------------------------------------------------------------------
-- Links
-----------------------------------------------------------------------------------------

/-- A handler without a method is refused before its entity type is looked up. -/
theorem follows_ofHandler (path : FieldPath) {handler : Template.Handler}
    (hm : handler.mentions ⊆ names)
    : Follows base more names (HandlerStep.ofHandler base path handler)
        (HandlerStep.ofHandler more path handler) := by
  obtain ⟨methodName, name, directlyApply⟩ := handler
  rw [HandlerStep.ofHandler, HandlerStep.ofHandler]
  cases name with
  | none => exact Follows.refl _
  | some text =>
      dsimp only
      split
      · exact Follows.refl _
      · exact (follows_written h _ hm).bind (fun entityType => Follows.refl _)

/-- By induction on the chain, at the path that the chain has come to. -/
theorem follows_ofChain (path : FieldPath) {handlers : List Template.Handler}
    (hm : handlers.flatMap Template.Handler.mentions ⊆ names)
    : Follows base more names (HandlerStep.ofChain base path handlers)
        (HandlerStep.ofChain more path handlers) := by
  induction handlers generalizing path with
  | nil => exact Follows.refl _
  | cons handler rest ih =>
      obtain ⟨hhandler, hrest⟩ := List.append_subset.mp hm
      rw [HandlerStep.ofChain, HandlerStep.ofChain]
      exact (follows_ofHandler h path hhandler).bind (fun step =>
        (ih _ hrest).bind (fun steps => Follows.refl _))

/-- A property is made alike of its entity type and of those of its handlers. -/
theorem follows_ofProperty (list : FieldPath) {property : Template.EntityProperty}
    (hm : property.mentions ⊆ names) (position : Nat)
    : Follows base more names (Propagation.ofProperty base list position property)
        (Propagation.ofProperty more list position property) := by
  obtain ⟨name, attributeName, useTopoExt, handlers⟩ := property
  obtain ⟨hentity, hhandlers⟩ := List.append_subset.mp hm
  rw [Propagation.ofProperty, Propagation.ofProperty]
  cases name with
  | none => exact Follows.refl _
  | some text =>
      refine (follows_written h _ hentity).bind (fun entity => ?_)
      refine Follows.bind ?_ (fun steps => Follows.refl _)
      rw [HandlerStep.ofHandlers, HandlerStep.ofHandlers]
      split
      · exact Follows.refl _
      · exact follows_ofChain h _ hhandlers

omit h in
/-- A rule that fills a part of a link looks up no more than its items do. -/
theorem follows_fill {α β : Type} {check other : Nat → α → Except Fault β} {items : List α}
    (hc : ∀ item ∈ items, ∀ position,
      Follows base more names (check position item) (other position item))
    (link : Link) (missing : Fault) (add : Link → List β → Link)
    : Follows base more names (outcomeOf (LinkRule.fill link missing check items add))
        (outcomeOf (LinkRule.fill link missing other items add)) := by
  have hfill
      : ∀ check : Nat → α → Except Fault β,
          outcomeOf (LinkRule.fill link missing check items add)
          = if items.isEmpty then .error missing
            else (Sequence.collect check items).map (add link) := by
    intro check
    rw [LinkRule.fill, Sequence.collect_eq_outcomeOf]
    split
    · rfl
    · cases Sequence.run check 0 items with
      | mk results fault => cases fault <;> rfl
  rw [hfill, hfill]
  split
  · exact Follows.refl _
  · exact (Follows.collect hc).map _

/-- A rule consults the vocabulary only for the names in the declaration. -/
theorem follows_apply (node : EntityType) (labels : Labels) (path : FieldPath)
    {declaration : Template.LinkDeclaration} (hm : declaration.mentions ⊆ names) (link : Link)
    (rule : LinkRule)
    : Follows base more names
        (outcomeOf (rule.apply ⟨base, node, labels⟩ path declaration link))
        (outcomeOf (rule.apply ⟨more, node, labels⟩ path declaration link)) := by
  obtain ⟨hfirst, hproperties⟩ := List.append_subset.mp hm
  obtain ⟨_, hdefinitions⟩ := List.append_subset.mp hfirst
  cases rule with
  | scope | probeProperties | hostingConsistency => exact Follows.refl _
  | commodityDefs =>
      rw [LinkRule.apply, LinkRule.apply]
      refine follows_fill (fun definition hdefinition position => ?_) link _ _
      exact follows_commodity h _ (Template.mentions_subset hdefinitions hdefinition)
  | entityProperties =>
      rw [LinkRule.apply, LinkRule.apply]
      refine follows_fill (fun property hproperty position => ?_) link _ _
      exact follows_ofProperty h _ (Template.mentions_subset hproperties hproperty) position

/-- By induction on the rules that are still to be applied. -/
theorem follows_applyAll (node : EntityType) (labels : Labels) (path : FieldPath)
    {declaration : Template.LinkDeclaration} (hm : declaration.mentions ⊆ names)
    (rules : List LinkRule) (link : Link)
    : Follows base more names
        (LinkRule.applyAll ⟨base, node, labels⟩ path declaration rules link)
        (LinkRule.applyAll ⟨more, node, labels⟩ path declaration rules link) := by
  induction rules generalizing link with
  | nil =>
      rw [LinkRule.applyAll, LinkRule.applyAll, List.foldlM_nil, List.foldlM_nil]
      exact Follows.refl _
  | cons rule rules ih =>
      rw [LinkRule.applyAll_cons, LinkRule.applyAll_cons]
      exact (follows_apply h node labels path hm link rule).bind ih

/-- What a link refers to is looked up alike; its relationship is a label and not a name. -/
theorem follows_ofReferences (path : FieldPath) {entry : Template.LinkEntry}
    (hm : entry.mentions ⊆ names)
    : Follows base more names (Link.ofReferences base path entry)
        (Link.ofReferences more path entry) := by
  obtain ⟨hkey, hvalue⟩ := List.append_subset.mp hm
  obtain ⟨hfirst, _⟩ := List.append_subset.mp hvalue
  obtain ⟨hreferences, _⟩ := List.append_subset.mp hfirst
  refine (follows_reference h _ (hreferences (by simp))).bind (fun seller => ?_)
  refine (follows_reference h _ (hreferences (by simp))).bind (fun buyer => ?_)
  refine Follows.bind (Follows.checkOptional (fun name hname => ?_)) (fun key => Follows.refl _)
  rw [hname] at hkey
  exact follows_written h _ hkey

/-- A link is validated alike against either vocabulary, whatever the labels of the node are. -/
theorem follows_validate (node : EntityType) (labels : Labels) (position : Nat)
    {entry : Template.LinkEntry} (hm : entry.mentions ⊆ names)
    : Follows base more names (Link.validate ⟨base, node, labels⟩ position entry)
        (Link.validate ⟨more, node, labels⟩ position entry) := by
  refine (follows_ofReferences h _ hm).bind (fun link => ?_)
  exact follows_applyAll h node labels _ (List.append_subset.mp hm).2 _ link

/-- By induction on the link entries; a link leaves the same labels for the links after it. -/
theorem follows_validateFrom (node : EntityType) (labels : Labels) (position : Nat)
    {entries : List Template.LinkEntry}
    (hm : entries.flatMap Template.LinkEntry.mentions ⊆ names)
    : Follows base more names (Link.validateFrom ⟨base, node, labels⟩ position entries)
        (Link.validateFrom ⟨more, node, labels⟩ position entries) := by
  induction entries generalizing labels position with
  | nil => exact Follows.refl _
  | cons entry rest ih =>
      obtain ⟨hentry, hrest⟩ := List.append_subset.mp hm
      refine (follows_validate h node labels position hentry).bind (fun link => ?_)
      refine Follows.bind ?_ (fun links => Follows.refl _)
      rw [LinkContext.after, LinkContext.after]
      cases link.declaredLabel? node with
      | none => exact ih labels (position + 1) hrest
      | some label => exact ih (labels.insert link.seller label) (position + 1) hrest

-----------------------------------------------------------------------------------------
-- Entries and documents
-----------------------------------------------------------------------------------------

/-- An entry gives the same node or the same fault, unless one of its names is lacking. -/
theorem follows_ofEntry {entry : Template.Entry} (hm : entry.mentions ⊆ names)
    : Follows base more names (Node.ofEntry base entry) (Node.ofEntry more entry) := by
  obtain ⟨hbefore, hlinks⟩ := List.append_subset.mp hm
  obtain ⟨hfirst, hbought⟩ := List.append_subset.mp hbefore
  obtain ⟨hclass, hsold⟩ := List.append_subset.mp hfirst
  refine (follows_entity h _ (hclass (List.mem_singleton.mpr rfl))).bind (fun entityType => ?_)
  refine (Follows.refl _).bind (fun kind => ?_)
  refine (follows_tradeOfEntry h hsold hbought).bind (fun trade => ?_)
  refine (Follows.refl _).bind (fun provision => ?_)
  exact (follows_validateFrom h entityType provision.labels 0 hlinks).bind
    (fun links => Follows.refl _)

/-- Entries are added alike up to the first one with a name that the first vocabulary lacks, by
induction on the entries. -/
theorem Chain.addEntries_extension {entries : List Template.Entry}
    (hm : entries.flatMap Template.Entry.mentions ⊆ names) (chain : Chain) (position : Nat)
    : addEntries base chain position entries = addEntries more chain position entries
      ∨ ∃ name rejection,
          base.Lacks more names name
          ∧ addEntries base chain position entries = .error rejection
          ∧ rejection.fault.cause = name.unknown := by
  induction entries generalizing chain position with
  | nil => exact Or.inl rfl
  | cons entry rest ih =>
      obtain ⟨hentry, hrest⟩ := List.append_subset.mp hm
      simp only [addEntries, addEntry]
      rcases follows_ofEntry h hentry with hsame | ⟨name, field, hlacks, hrefused⟩
      · rw [hsame]
        cases Node.ofEntry more entry >>= chain.fold with
        | error fault => exact Or.inl rfl
        | ok extended => exact ih hrest extended (position + 1)
      · rw [hrefused]
        exact Or.inr ⟨name, _, hlacks, rfl, rfl⟩

end Stages

/-- A richer vocabulary makes the same of a document, unless the document is rejected for a name
that the other vocabulary lacks. -/
theorem compile_extension {document : Template.Document}
    (hextended : base.ExtendedBy more document.mentions)
    : compile base document = compile more document
      ∨ ∃ name rejection,
          base.Lacks more document.mentions name
          ∧ compile base document = .error rejection
          ∧ rejection.fault.cause = name.unknown :=
  Chain.addEntries_extension hextended (List.Subset.refl _) ∅ 0

/-- What a document compiles to depends on what its own names mean only, and knowing more names
never changes what a document compiles to that compiles. -/
theorem compile_depends_on_mentions (document : Template.Document)
    : ((∀ name ∈ document.mentions, base.meaning? name = more.meaning? name)
        → compile base document = compile more document)
      ∧ (base.ExtendedBy more document.mentions
        → ∀ chain, compile base document = .ok chain → compile more document = .ok chain) := by
  constructor
  · intro hagree
    have hextended : base.ExtendedBy more document.mentions :=
      fun name hname term hterm => by rw [← hagree name hname, hterm]
    rcases compile_extension hextended with hsame | ⟨name, _, ⟨hname, hnone, hsome⟩, _, _⟩
    · exact hsame
    · -- Vocabularies that agree on a name do not differ in knowing it.
      rw [hagree name hname] at hnone
      exact absurd hnone hsome
  · intro hextended chain hchain
    rcases compile_extension hextended with hsame | ⟨_, rejection, _, hrejected, _⟩
    · rw [← hsame, hchain]
    · rw [hchain] at hrejected
      cases hrejected

/-- Of a guest and its host two vocabularies make the same chain, and a provider that neither of two
vocabularies knows is the same fault for both. -/
theorem compile_depends_on_mentions_looseGuest
    : (∀ name ∈ (looseGuest " ").mentions,
        hostNames.meaning? name = Vocabulary.standard.meaning? name)
      ∧ hostNames.ExtendedBy .standard (looseGuest " ").mentions
      ∧ (∃ chain,
          compile hostNames (looseGuest " ") = .ok chain
          ∧ compile .standard (looseGuest " ") = .ok chain)
      ∧ (∀ name ∈ (looseMachine " ").mentions,
        machineNames.meaning? name = Vocabulary.standard.meaning? name)
      ∧ ∃ rejection,
          compile machineNames (looseMachine " ") = .error rejection
          ∧ compile .standard (looseMachine " ") = .error rejection := by
  have hguest
      : ∀ name ∈ (looseGuest " ").mentions,
          hostNames.meaning? name = Vocabulary.standard.meaning? name := by
    decide +kernel
  have hextended : hostNames.ExtendedBy .standard (looseGuest " ").mentions :=
    fun name hname term hterm => by rw [← hguest name hname, hterm]
  have hmachine
      : ∀ name ∈ (looseMachine " ").mentions,
          machineNames.meaning? name = Vocabulary.standard.meaning? name := by
    decide +kernel
  refine ⟨hguest, hextended, ?_, hmachine, ?_⟩
  · have hcompiles : (compile hostNames (looseGuest " ")).toOption.isSome := by decide +kernel
    obtain ⟨chain, hchain⟩ := Option.isSome_iff_exists.mp hcompiles
    have hok := toOption_eq_some_iff.mp hchain
    exact ⟨chain, hok, (compile_depends_on_mentions (looseGuest " ")).2 hextended chain hok⟩
  · have hsame := (compile_depends_on_mentions (looseMachine " ")).1 hmachine
    cases hrejected : compile machineNames (looseMachine " ") with
    | error rejection => exact ⟨rejection, rfl, hsame.symm.trans hrejected⟩
    | ok chain =>
        have hfails : (compile machineNames (looseMachine " ")).toOption.isNone := by
          decide +kernel
        rw [hrejected] at hfails
        cases hfails

end SupplyGraph
