import SupplyGraph.Proofs.Entry.Declaration
import SupplyGraph.Proofs.Template.Names
import SupplyGraph.Proofs.Text.Trimming

/-!
Complete declarations. What an entry declares has nothing missing that the checks ask for, and every
entity type and commodity type in it is what one of the names of the entry means.
-/

namespace SupplyGraph

-----------------------------------------------------------------------------------------
-- Complete parts
-----------------------------------------------------------------------------------------

/-- There is a bound, and if there are two, they are not the wrong way round. -/
structure Cardinality.IsBounded (cardinality : Cardinality) : Prop where
  given : cardinality.least ≠ none ∨ cardinality.most ≠ none
  ordered
    : ∀ least most,
        cardinality.least = some least → cardinality.most = some most → least ≤ most

structure Propagation.IsComplete (propagation : Propagation) : Prop where
  handlers : propagation.handlers ≠ []
  methodNames : ∀ step ∈ propagation.handlers, Text.IsTrimmed step.methodName

/-- The link is a link of the entity type, and each of its sections says something. -/
structure Link.IsComplete (entityType : EntityType) (link : Link) : Prop where
  involved : link.buyer = entityType ∨ link.seller = entityType
  commodities : link.commodities ≠ ∅
  probeProperties : link.probeProperties ≠ ∅
  propagations : link.propagations ≠ []
  propertyNames : ∀ name ∈ link.probeProperties, Text.IsTrimmed name
  complete : ∀ propagation ∈ link.propagations, propagation.IsComplete

/-- The entity types and commodity types in a link. -/
inductive Link.Uses (link : Link) : Term → Prop where
  | key {entityType : EntityType} (h : link.key = some entityType) : Uses link (.entity entityType)
  | buyer : Uses link (.entity link.buyer)
  | seller : Uses link (.entity link.seller)
  | commodity {commodity : CommodityType} (h : commodity ∈ link.commodities)
    : Uses link (.commodity commodity)
  | propagation {propagation : Propagation} (h : propagation ∈ link.propagations)
    : Uses link (.entity propagation.entity)
  | handler {propagation : Propagation} {step : HandlerStep}
    (h : propagation ∈ link.propagations) (hs : step ∈ propagation.handlers)
    : Uses link (.entity step.entityType)

/-- The term is what one of the names means. -/
def Vocabulary.Means (vocabulary : Vocabulary) (names : List Name) (term : Term) : Prop :=
  ∃ name ∈ names, vocabulary.meaning? name = some term

variable {vocabulary : Vocabulary} {names : List Name}

/-- What a trimmed name stands for is meant by one of the names. -/
theorem Vocabulary.means_entity {name : Option String} {entityType : EntityType}
    (h : vocabulary.entityNamed? name = some entityType)
    (hm : .entity (Text.trim (name.getD "")) ∈ names)
    : vocabulary.Means names (.entity entityType) :=
  ⟨_, hm, meaning?_entity_eq_some_iff.mpr h⟩

theorem Vocabulary.means_written {text : String} {entityType : EntityType}
    (h : vocabulary.entityNamed? (some text) = some entityType)
    (hm : Template.entityNames (some text) ⊆ names)
    : vocabulary.Means names (.entity entityType) :=
  means_entity h (hm (List.mem_singleton.mpr rfl))

/-- A name that is not blank comes from a text and has no blanks at its ends. -/
theorem eq_trim_of_nonBlank? {name : Option String} {text : String}
    (h : nonBlank? name = some text)
    : ∃ written, name = some written ∧ text = Text.trim written ∧ Text.IsTrimmed text := by
  cases name with
  | none => cases h
  | some written =>
      rw [nonBlank?] at h
      obtain ⟨hblank, htext⟩ := Option.ite_none_left_eq_some.mp h
      obtain rfl := Option.some.inj htext
      exact ⟨written, rfl, rfl, Text.isTrimmed_trim hblank⟩

/-- A commodity stands for a name that is not blank, so it is meant by one of the names. -/
theorem Vocabulary.means_commodity {name : Option String} {commodityType : CommodityType}
    (h : vocabulary.commodityNamed? name = some commodityType)
    (hm : Template.commodityNames name ⊆ names)
    : vocabulary.Means names (.commodity commodityType) := by
  obtain ⟨_, hname, hknown⟩ := Option.bind_eq_some_iff.mp h
  obtain ⟨written, rfl, rfl, _⟩ := eq_trim_of_nonBlank? hname
  exact ⟨_, hm (List.mem_singleton.mpr rfl), meaning?_commodity_eq_some_iff.mpr hknown⟩

/-- Where at least one item is asked for, there is a result, and every result comes from an item. -/
theorem results_of_readNonempty? {α β : Type} {read : α → Option β} {items : List α}
    {results : List β} (h : readNonempty? read items = some results)
    : results ≠ [] ∧ ∀ result ∈ results, ∃ item ∈ items, read item = some result := by
  rw [readNonempty?] at h
  obtain ⟨hitems, hread⟩ := Option.ite_none_left_eq_some.mp h
  refine ⟨?_, fun result hm => exists_mem_of_mapM hread hm⟩
  intro hempty
  cases items with
  | nil => exact hitems rfl
  | cons item rest =>
      simp only [hempty, List.mapM_cons, Option.bind_eq_bind, Option.bind_eq_some_iff,
        Option.pure_def, Option.some.injEq] at hread
      obtain ⟨_, _, _, _, hcons⟩ := hread
      cases hcons

-----------------------------------------------------------------------------------------
-- Parts of an entry
-----------------------------------------------------------------------------------------

/-- A cardinality that is declared has a bound, and its bounds are in order. -/
theorem Cardinality.isBounded_of_declared? {least most : Option Int32} {cardinality : Cardinality}
    (h : declared? least most = some (some cardinality))
    : cardinality.IsBounded := by
  cases least with
  | none =>
      cases most with
      | none => cases h
      | some most =>
          obtain rfl := Option.some.inj (Option.some.inj h)
          exact ⟨Or.inr (by simp), fun _ _ hleast _ => by cases hleast⟩
  | some least =>
      cases most with
      | none =>
          obtain rfl := Option.some.inj (Option.some.inj h)
          exact ⟨Or.inl (by simp), fun _ _ _ hmost => by cases hmost⟩
      | some most =>
          rw [declared?] at h
          obtain ⟨hordered, hbounds⟩ := Option.ite_none_left_eq_some.mp h
          obtain rfl := Option.some.inj (Option.some.inj hbounds)
          refine ⟨Or.inl (by simp), fun first second hfirst hsecond => ?_⟩
          obtain rfl := Option.some.inj hfirst
          obtain rfl := Option.some.inj hsecond
          exact Int32.not_lt.mp hordered

/-- What a bought group stands for: its provider and its commodities have names, and there are
bounds where it records a cardinality. -/
structure Purchase.IsGrounded (vocabulary : Vocabulary) (names : List Name) (purchase : Purchase)
    : Prop where
  provider : vocabulary.Means names (.entity purchase.provider)
  commodities
    : ∀ commodity ∈ purchase.commodities, vocabulary.Means names (.commodity commodity)
  bounded : ∀ cardinality, purchase.cardinality = some cardinality → cardinality.IsBounded

/-- All that a purchase says goes back to names in its group. -/
theorem Purchase.isGrounded_of_declared? {group : Template.BoughtGroup} {purchase : Purchase}
    (h : declared? vocabulary group = some purchase) (hm : group.mentions ⊆ names)
    : purchase.IsGrounded vocabulary names := by
  simp only [declared?, Option.bind_eq_bind, Option.bind_eq_some_iff, Option.pure_def,
    Option.some.injEq] at h
  obtain ⟨reference, hkey, provider, ⟨name, hname, hprovider⟩, relationship, _, cardinality,
    hcardinality, commodities, hcommodities, rfl⟩ := h
  obtain ⟨hreference, hvalue⟩ := List.append_subset.mp hm
  rw [hkey] at hreference
  constructor
  · obtain ⟨written, hwritten, rfl, _⟩ := eq_trim_of_nonBlank? hname
    refine ⟨.entity _, hreference ?_, Vocabulary.meaning?_entity_eq_some_iff.mpr hprovider⟩
    simp [Template.ProviderRef.mentions, Template.entityNames, hwritten]
  · intro commodity hcommodity
    obtain ⟨item, hitem, hread⟩ :=
      exists_mem_of_mapM hcommodities ((SortedSet.mem_ofList _ _).mp hcommodity)
    exact Vocabulary.means_commodity hread (Template.mentions_subset hvalue hitem)
  · intro bounds hbounds
    obtain rfl : cardinality = some bounds := hbounds
    exact Cardinality.isBounded_of_declared? hcardinality

/-- A step has a trimmed method name and an entity type that is written in its handler. -/
theorem HandlerStep.of_declared? {handler : Template.Handler} {step : HandlerStep}
    (h : declared? vocabulary handler = some step) (hm : handler.mentions ⊆ names)
    : Text.IsTrimmed step.methodName ∧ vocabulary.Means names (.entity step.entityType) := by
  simp only [declared?, Option.bind_eq_bind, Option.bind_eq_some_iff, Option.pure_def,
    Option.some.injEq] at h
  obtain ⟨methodName, hmethod, name, hname, entityType, hentity, rfl⟩ := h
  obtain ⟨_, _, _, htrimmed⟩ := eq_trim_of_nonBlank? hmethod
  rw [Template.Handler.mentions, hname] at hm
  exact ⟨htrimmed, Vocabulary.means_written hentity hm⟩

/-- What a property stands for: it is complete, and its entity types have names. -/
theorem Propagation.of_declared? {property : Template.EntityProperty} {propagation : Propagation}
    (h : declared? vocabulary property = some propagation) (hm : property.mentions ⊆ names)
    : propagation.IsComplete
      ∧ vocabulary.Means names (.entity propagation.entity)
      ∧ ∀ step ∈ propagation.handlers, vocabulary.Means names (.entity step.entityType) := by
  simp only [declared?, Option.bind_eq_bind, Option.bind_eq_some_iff, Option.pure_def,
    Option.some.injEq] at h
  obtain ⟨name, hname, entity, hentity, handlers, hhandlers, rfl⟩ := h
  obtain ⟨hnames, hrest⟩ := List.append_subset.mp hm
  rw [hname] at hnames
  obtain ⟨hsome, hresults⟩ := results_of_readNonempty? hhandlers
  have hsteps
      : ∀ step ∈ handlers,
          Text.IsTrimmed step.methodName ∧ vocabulary.Means names (.entity step.entityType) := by
    intro step hstep
    obtain ⟨handler, hhandler, hread⟩ := hresults step hstep
    exact HandlerStep.of_declared? hread (Template.mentions_subset hrest hhandler)
  exact ⟨⟨hsome, fun step hstep => (hsteps step hstep).1⟩, Vocabulary.means_written hentity hnames,
    fun step hstep => (hsteps step hstep).2⟩

/-- A set of some values is not empty. -/
theorem SortedSet.ofList_ne_empty {κ : Type} [Key κ] {values : List κ} (h : values ≠ [])
    : SortedSet.ofList values ≠ ∅ := by
  obtain ⟨value, hm⟩ := List.exists_mem_of_ne_nil values h
  intro hempty
  have hvalue := (SortedSet.mem_ofList values value).mpr hm
  rw [hempty] at hvalue
  exact SortedSet.not_mem_emptyCollection value hvalue

/-- What the references of a link stand for have names. -/
theorem Link.means_of_references? {entry : Template.LinkEntry} {link : Link}
    (h : references? vocabulary entry = some link) (hm : entry.mentions ⊆ names)
    : vocabulary.Means names (.entity link.buyer)
      ∧ vocabulary.Means names (.entity link.seller)
      ∧ ∀ entityType, link.key = some entityType → vocabulary.Means names (.entity entityType) := by
  obtain ⟨hkey, hvalue⟩ := List.append_subset.mp hm
  obtain ⟨hfirst, _⟩ := List.append_subset.mp hvalue
  obtain ⟨hreferences, _⟩ := List.append_subset.mp hfirst
  simp only [references?, Option.bind_eq_bind, Option.bind_eq_some_iff] at h
  obtain ⟨seller, hseller, buyer, hbuyer, key, hread, relationship, _, hlink⟩ := h
  obtain rfl := Option.some.inj hlink
  refine ⟨Vocabulary.means_entity hbuyer (hreferences (by simp)),
    Vocabulary.means_entity hseller (hreferences (by simp)), ?_⟩
  intro entityType hentity
  obtain rfl : key = some entityType := hentity
  cases hwritten : entry.key with
  | none =>
      rw [hwritten] at hread
      cases hread
  | some name =>
      rw [hwritten] at hkey hread
      obtain ⟨found, hfound, hsome⟩ := Option.map_eq_some_iff.mp hread
      rw [Option.some.inj hsome] at hfound
      exact Vocabulary.means_written hfound hkey

/-- What a link entry of an entity type stands for: it is complete, and all that it uses has
names. -/
theorem Link.of_declared? {entityType : EntityType} {entry : Template.LinkEntry} {link : Link}
    (h : declared? vocabulary entityType entry = some link) (hm : entry.mentions ⊆ names)
    : link.IsComplete entityType ∧ ∀ term, link.Uses term → vocabulary.Means names term := by
  simp only [declared?, Option.bind_eq_bind, Option.bind_eq_some_iff, Option.filter_eq_some_iff,
    decide_eq_true_eq] at h
  obtain ⟨base, ⟨hbase, hinvolved⟩, commodities, hcommodities, properties, hproperties,
    propagations, hpropagations, hlink⟩ := h
  obtain rfl := Option.some.inj hlink
  obtain ⟨hbuyer, hseller, hkey⟩ := means_of_references? hbase hm
  obtain ⟨hfirst, hentities⟩ := List.append_subset.mp (List.append_subset.mp hm).2
  obtain ⟨_, hdefinitions⟩ := List.append_subset.mp hfirst
  obtain ⟨hsomeCommodity, hdefined⟩ := results_of_readNonempty? hcommodities
  obtain ⟨hsomeProperty, hnamed⟩ := results_of_readNonempty? hproperties
  obtain ⟨hsomePropagation, hcarried⟩ := results_of_readNonempty? hpropagations
  have hparts
      : ∀ propagation ∈ propagations,
          propagation.IsComplete
          ∧ vocabulary.Means names (.entity propagation.entity)
          ∧ ∀ step ∈ propagation.handlers,
              vocabulary.Means names (.entity step.entityType) := by
    intro propagation hpropagation
    obtain ⟨property, hproperty, hread⟩ := hcarried propagation hpropagation
    exact Propagation.of_declared? hread (Template.mentions_subset hentities hproperty)
  constructor
  · refine ⟨hinvolved.imp Eq.symm Eq.symm, SortedSet.ofList_ne_empty hsomeCommodity,
      SortedSet.ofList_ne_empty hsomeProperty, hsomePropagation, ?_,
      fun propagation hpropagation => (hparts propagation hpropagation).1⟩
    intro name hname
    obtain ⟨_, _, hread⟩ := hnamed name ((SortedSet.mem_ofList _ _).mp hname)
    obtain ⟨_, _, _, htrimmed⟩ := eq_trim_of_nonBlank? hread
    exact htrimmed
  · intro term huses
    cases huses with
    | key hentity => exact hkey _ hentity
    | buyer => exact hbuyer
    | seller => exact hseller
    | commodity hcommodity =>
        obtain ⟨definition, hdefinition, hread⟩ :=
          hdefined _ ((SortedSet.mem_ofList _ _).mp hcommodity)
        exact Vocabulary.means_commodity hread (Template.mentions_subset hdefinitions hdefinition)
    | propagation hpropagation => exact (hparts _ hpropagation).2.1
    | handler hpropagation hstep => exact (hparts _ hpropagation).2.2 _ hstep

-----------------------------------------------------------------------------------------
-- Entries
-----------------------------------------------------------------------------------------

/-- A declaration for an entity type is complete, and all that it uses has names. -/
structure Declaration.IsComplete (vocabulary : Vocabulary) (names : List Name)
    (entityType : EntityType) (declaration : Declaration)
    : Prop where
  named : vocabulary.Means names (.entity entityType)
  sells : declaration.sold ≠ []
  sold : ∀ pair ∈ declaration.sold, vocabulary.Means names (.commodity pair.1)
  bought : ∀ purchase ∈ declaration.bought, purchase.IsGrounded vocabulary names
  links
    : ∀ link ∈ declaration.links,
        link.IsComplete entityType ∧ ∀ term, link.Uses term → vocabulary.Means names term

/-- Complete declarations are together complete. -/
theorem Declaration.IsComplete.append {entityType : EntityType} {first second : Declaration}
    (hf : first.IsComplete vocabulary names entityType)
    (hs : second.IsComplete vocabulary names entityType)
    : (first ++ second).IsComplete vocabulary names entityType where
  named := hf.named
  sells := List.append_ne_nil_of_left_ne_nil hf.sells second.sold
  sold := List.forall_mem_append.mpr ⟨hf.sold, hs.sold⟩
  bought := List.forall_mem_append.mpr ⟨hf.bought, hs.bought⟩
  links := List.forall_mem_append.mpr ⟨hf.links, hs.links⟩

/-- The declaration of an entry is complete, by the completeness of its purchases and its links. -/
theorem Template.Entry.isComplete_of_declaration? {entry : Template.Entry}
    {entityType : EntityType} {declaration : Declaration}
    (h : entry.declaration? vocabulary = some (entityType, declaration))
    (hm : entry.mentions ⊆ names)
    : declaration.IsComplete vocabulary names entityType := by
  obtain ⟨hbefore, hlinks⟩ := List.append_subset.mp hm
  obtain ⟨hfirst, hbought⟩ := List.append_subset.mp hbefore
  obtain ⟨hclass, hsold⟩ := List.append_subset.mp hfirst
  obtain ⟨htype, _, hreadSold, hreadBought, hreadLinks⟩ := declaration?_eq_some_iff.mp h
  obtain ⟨hsells, hresults⟩ := results_of_readNonempty? hreadSold
  constructor
  · exact ⟨_, hclass (List.mem_singleton.mpr rfl), Vocabulary.meaning?_entity_eq_some_iff.mpr htype⟩
  · exact hsells
  · intro pair hpair
    obtain ⟨commodity, hcommodity, hread⟩ := hresults pair hpair
    obtain ⟨commodityType, hknown, rfl⟩ := Option.map_eq_some_iff.mp hread
    exact Vocabulary.means_commodity hknown (mentions_subset hsold hcommodity)
  · intro purchase hpurchase
    obtain ⟨group, hgroup, hread⟩ := exists_mem_of_mapM hreadBought hpurchase
    exact Purchase.isGrounded_of_declared? hread (mentions_subset hbought hgroup)
  · intro link hlink
    obtain ⟨linkEntry, hentry, hread⟩ := exists_mem_of_mapM hreadLinks hlink
    exact Link.of_declared? hread (mentions_subset hlinks hentry)

end SupplyGraph
